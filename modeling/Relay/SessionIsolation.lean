/-
# Sessions of different tenants

A client may ask for any session id in its CONNECT frame, and `touch_session` writes to whatever id
the connection has got.  What keeps a tenant away from the sessions of another is the `tenant_id`
field of the hash: `create_session` writes it once, under a fresh UUID, `touch_session` preserves it
and never writes one, and a requested session is taken up only if the field names the tenant.

The field may be gone by the time the session is touched: the hash may have expired in between, and
a PONG may then bring it back without an owner.  So the permission to use an id is not a property of
the store.  It is something the handler has seen (`Prog.Learns`), or an id it has drawn itself.

* `session_keys_apart`: the keys of two sessions with UUIDs are different strings, whatever the
  channels are called;
* `sessions_isolated`: every step that writes a key of a session is a step of a handler of the tenant
  the session's id was drawn for, and every registered connection's session was created for its
  tenant.
-/
import Mathlib
import Relay.Lib.Learn
import Relay.World

namespace Relay

open Gateway Redis

/-! ## 1. Keys -/

/-- `RedisKeys.session`. -/
def sessionKey (sessionId : String) : String := "relay:session:" ++ sessionId

/-- `RedisKeys.session_ack`. -/
def sessionAckKey (sessionId : String) (channel : Channel) : String :=
  "relay:session:" ++ sessionId ++ ":ack:" ++ channel

/-- The key belongs to the session: it is the key of its hash or of one of its acks. -/
def IsKeyOf (sessionId key : String) : Prop :=
  key = sessionKey sessionId ∨ ∃ channel, key = sessionAckKey sessionId channel

/-- Two strings of one length that stand at the same place. -/
theorem middle_unique {pre a b x y : String} (hlen : a.toList.length = b.toList.length)
    (h : pre ++ a ++ x = pre ++ b ++ y) : a = b := by
  have hl := congrArg String.toList h
  simp only [String.toList_append, List.append_assoc] at hl
  exact String.toList_inj.mp (List.append_inj_left (List.append_cancel_left hl) hlen)

/-- A key of a session begins with the session's id. -/
theorem IsKeyOf.split {sessionId key : String} (h : IsKeyOf sessionId key) :
    ∃ rest, key = "relay:session:" ++ sessionId ++ rest := by
  rcases h with rfl | ⟨channel, rfl⟩
  · exact ⟨"", String.append_empty.symm⟩
  · exact ⟨":ack:" ++ channel, String.append_assoc⟩

/-- **No key belongs to two sessions**, if their ids are UUIDs. -/
theorem session_keys_apart {a b key : String} (ha : IsUuid a) (hb : IsUuid b)
    (h1 : IsKeyOf a key) (h2 : IsKeyOf b key) : a = b := by
  obtain ⟨x, hx⟩ := h1.split
  obtain ⟨y, hy⟩ := h2.split
  exact middle_unique (ha.length.trans hb.length.symm) (hx.symm.trans hy)

/-! ## 2. What a segment may do to sessions -/

/-- The session ids whose hash names a tenant, with the tenant. -/
def owners (r : Redis) : Set (String × String) :=
  {e | ∃ v, r.sessions e.1 = some v ∧ v.val.tenantId = some e.2}

/-- Only sessions in `own` are written, and no owner is added. -/
structure Redis.OwnSession (own : Set String) (r r' : Redis) : Prop where
  sessions : ∀ id, id ∉ own → r'.sessions id = r.sessions id
  acks : ∀ id channel, id ∉ own → r'.acks (id, channel) = r.acks (id, channel)
  owners : owners r' ⊆ owners r

/-- Every connection was there before, for the same client. -/
def Node.PeersFrom (n n' : Node) : Prop :=
  ∀ x conn', n'.registry.byId.get? x = some conn' →
    ∃ conn, n.registry.byId.get? x = some conn ∧ conn.peer = conn'.peer

/-- Only sessions in `own` are written; only owners in `made` are added; a new connection's session
and tenant are in `joined`. -/
structure SessionMove (own : Set String) (made joined : Set (String × String)) (g g' : Gateway) :
    Prop where
  sessions : ∀ id, id ∉ own → g'.redis.sessions id = g.redis.sessions id
  acks : ∀ id channel, id ∉ own → g'.redis.acks (id, channel) = g.redis.acks (id, channel)
  owners : owners g'.redis ⊆ owners g.redis ∪ made
  conns : ∀ x conn', g'.node.registry.byId.get? x = some conn' →
    (∃ conn, g.node.registry.byId.get? x = some conn ∧ conn.peer = conn'.peer) ∨
      (conn'.sessionId, conn'.tenantId) ∈ joined

/-- What the handler of a socket may do that authenticated as `tenantId` and has drawn `newId`: it
writes the session it has drawn and those known to belong to its tenant. -/
def HandlerWrites (newId tenantId : String) (known : Set (String × String)) (g g' : Gateway) : Prop :=
  SessionMove {id | id = newId ∨ (id, tenantId) ∈ known} {(newId, tenantId)}
    {e | e ∈ known ∧ e.2 = tenantId} g g'

section Moves

variable {own own' : Set String} {made made' joined joined' : Set (String × String)} {g g' : Gateway}
  {n n' : Node} {r r' : Redis}

theorem SessionMove.mono (h : SessionMove own made joined g g') (ho : own ⊆ own')
    (hm : made ⊆ made') (hj : joined ⊆ joined') : SessionMove own' made' joined' g g' :=
  ⟨fun id hid => h.sessions id (fun hi => hid (ho hi)),
    fun id channel hid => h.acks id channel (fun hi => hid (ho hi)),
    fun _ he => (h.owners he).imp_right (fun hx => hm hx),
    fun x conn' hx => (h.conns x conn' hx).imp_right (fun hc => hj hc)⟩

theorem HandlerWrites.mono {newId tenantId : String} {K K' : Set (String × String)} (hK : K ⊆ K')
    (h : HandlerWrites newId tenantId K g g') : HandlerWrites newId tenantId K' g g' :=
  SessionMove.mono h (fun _ hid => hid.imp_right (fun hk => hK hk)) (subset_refl _)
    (fun _ he => ⟨hK he.1, he.2⟩)

theorem Redis.OwnSession.refl (r : Redis) : OwnSession own r r :=
  ⟨fun _ _ => rfl, fun _ _ _ => rfl, subset_refl _⟩

theorem Redis.OwnSession.trans {a b c : Redis} (h : OwnSession own a b) (k : OwnSession own b c) :
    OwnSession own a c :=
  ⟨fun id hid => (k.sessions id hid).trans (h.sessions id hid),
    fun id ch hid => (k.acks id ch hid).trans (h.acks id ch hid), k.owners.trans h.owners⟩

theorem owners_congr (h : r'.sessions = r.sessions) : owners r' = owners r := by
  simp only [owners, h]

/-- Anything but sessions and acks. -/
theorem ownSession_of_eq (hs : r'.sessions = r.sessions) (ha : r'.acks = r.acks) :
    OwnSession own r r' :=
  ⟨fun _ _ => by rw [hs], fun _ _ _ => by rw [ha], by rw [owners_congr hs]⟩

theorem Node.PeersFrom.refl (n : Node) : n.PeersFrom n := fun _ conn hx => ⟨conn, hx, rfl⟩

theorem peersFrom_registry (h : n'.registry = n.registry) : n.PeersFrom n' :=
  fun _ conn hx => ⟨conn, by rw [← h]; exact hx, rfl⟩

theorem peersFrom_outbound (h : n.Outbound n') : n.PeersFrom n' := fun x conn' hx => by
  obtain ⟨conn, hconn, hid⟩ := h.before hx
  exact ⟨conn, hconn, congrArg Prod.fst hid⟩

/-- A change of one connection that keeps whose it is. -/
theorem peersFrom_map {y : ConnId} {f : Connection → Connection}
    (h : ∀ x, n'.registry.byId.get? x =
      if x = y then (n.registry.byId.get? x).map f else n.registry.byId.get? x)
    (hf : ∀ conn, (f conn).peer = conn.peer) : n.PeersFrom n' := by
  intro x conn' hx
  rw [h x] at hx
  split at hx
  · obtain ⟨conn, hconn, rfl⟩ := Option.map_eq_some_iff.mp hx
    exact ⟨conn, hconn, (hf conn).symm⟩
  · exact ⟨conn', hx, rfl⟩

theorem peersFrom_updateConn (y : ConnId) {f : Connection → Connection}
    (hf : ∀ conn, (f conn).peer = conn.peer) (n : Node) : n.PeersFrom (n.updateConn y f) :=
  peersFrom_map (fun x => Registry.get_updateConn n.registry y x f) hf

theorem peersFrom_remove (y : ConnId) (n : Node) : n.PeersFrom (n.remove y) := by
  intro x conn' hx
  have hget := Registry.get_remove n.registry y x
  rw [show (n.remove y).registry = (n.registry.remove y).2 from rfl, hget] at hx
  split at hx
  · exact absurd hx (by simp)
  · exact ⟨conn', hx, rfl⟩

theorem move_redis (h : OwnSession own g.redis r') : SessionMove own made joined g (setRedis r' g) :=
  ⟨h.sessions, h.acks, fun _ he => Or.inl (h.owners he), fun _ conn hx => Or.inl ⟨conn, hx, rfl⟩⟩

theorem move_node (h : g.node.PeersFrom n') : SessionMove own made joined g (setNode n' g) :=
  ⟨fun _ _ => rfl, fun _ _ _ => rfl, fun _ he => Or.inl he, fun x conn' hx => Or.inl (h x conn' hx)⟩

end Moves

/-! ## 3. Frames write the connection's own session only -/

section Frames

variable {own : Set String} {α : Type}

/-- A move that adds no owner and no connection. -/
abbrev OwnMove (own : Set String) (g g' : Gateway) : Prop := SessionMove own ∅ ∅ g g'

theorem own_attempt {f : Redis → Except Exn α × Redis} (h : ∀ r, OwnSession own r (f r).2)
    (r : Redis) : OwnSession own r (attempt f r).2 := by
  unfold attempt
  split
  · exact ownSession_of_eq rfl rfl
  · rename_i rest _
    exact OwnSession.trans (b := { r with faults := rest }) (ownSession_of_eq rfl rfl) (h _)
  · exact h r

theorem own_command {f : Redis → Except Exn α × Redis} (h : ∀ r, OwnSession own r (f r).2) :
    (command f).Keeps (fun _ => True) (OwnSession own) :=
  Prog.keeps_atomic (fun r _ => ⟨trivial, own_attempt h r⟩)

/-- A command on keys of another kind. -/
theorem own_elsewhere {f : Redis → Except Exn α × Redis} (hs : ∀ r, (f r).2.sessions = r.sessions)
    (ha : ∀ r, (f r).2.acks = r.acks) : (command f).Keeps (fun _ => True) (OwnSession own) :=
  own_command (fun r => ownSession_of_eq (hs r) (ha r))

theorem own_withRedis {q : Prog Redis Exn α} (hq : q.Keeps (fun _ => True) (OwnSession own)) :
    (withRedis q).Keeps (fun _ => True) (OwnMove own) :=
  hq.lift (fun _ _ => trivial) (fun _ _ _ _ h => ⟨trivial, move_redis h⟩)

theorem own_locally (f : Node → Node) (h : ∀ n, Node.PeersFrom n (f n)) :
    (locally f).Keeps (fun _ => True) (OwnMove own) :=
  Prog.keeps_modify (fun g _ => ⟨trivial, move_node (h g.node)⟩)

theorem own_sendText (x : ConnId) (frame : ServerFrame) :
    (Gateway.sendText x frame).Keeps (fun _ => True) (OwnMove own) :=
  Prog.keeps_atomic (fun g _ => ⟨trivial,
    move_node (peersFrom_outbound (Node.outbound_sendText x frame g.node))⟩)

theorem own_whenUser {userId : Option String} {q : String → Prog Redis Exn Unit}
    (h : ∀ user, (q user).Keeps (fun _ => True) (OwnSession own)) :
    (whenUser userId q).Keeps (fun _ => True) (OwnMove own) := by
  cases userId with
  | none => exact Prog.keeps_ret ()
  | some user => exact own_withRedis (h user)

/-- A change of one connection that keeps whose it is. -/
theorem own_updateConn (x : ConnId) (f : Connection → Connection)
    (hf : ∀ conn, (f conn).peer = conn.peer) :
    (locally (Node.updateConn x f)).Keeps (fun _ => True) (OwnMove own) :=
  own_locally _ (peersFrom_updateConn x hf)

theorem own_subscribe (x : ConnId) (channel : Channel) :
    (locally (Node.subscribe x channel)).Keeps (fun _ => True) (OwnMove own) :=
  own_locally _ (fun n => peersFrom_map (fun y => Registry.get_subscribe n.registry x y channel)
    (fun _ => rfl))

theorem own_unsubscribe (x : ConnId) (channel : Channel) :
    (locally (Node.unsubscribe x channel)).Keeps (fun _ => True) (OwnMove own) :=
  own_locally _ (fun n => peersFrom_map (fun y => Registry.get_unsubscribe n.registry x y channel)
    (fun _ => rfl))

/-! Presence. -/

theorem own_setState (env : Env) (tenantId user : String) (idle : Bool) :
    (Presence.setState env tenantId user idle).Keeps (fun _ => True) (OwnSession own) := by
  unfold Presence.setState
  split
  · exact own_elsewhere (fun _ => rfl) (fun _ => rfl)
  · exact own_elsewhere (fun _ => rfl) (fun _ => rfl)

theorem own_connectionOnline (env : Env) (tenantId user : String) (x : ConnId) :
    (Presence.connectionOnline env tenantId user x).Keeps (fun _ => True) (OwnSession own) := by
  refine own_command (fun r => OwnSession.trans (b := (Presence.addMember
    (Presence.key tenantId user) x r).2) ?_ (ownSession_of_eq rfl rfl))
  unfold Presence.addMember
  split <;> exact ownSession_of_eq rfl rfl

theorem own_connectionOffline (tenantId user : String) (x : ConnId) :
    (Presence.connectionOffline tenantId user x).Keeps (fun _ => True) (OwnSession own) := by
  have hremove : ∀ r : Redis, OwnSession own r
      (Presence.removeMember (Presence.key tenantId user) x r).2 := fun r => by
    unfold Presence.removeMember
    split <;> exact ownSession_of_eq rfl rfl
  have hcount : ∀ r : Redis, OwnSession own r
      (Presence.countMembers (Presence.key tenantId user) r).2 := fun r => by
    unfold Presence.countMembers
    split <;> exact OwnSession.refl r
  refine (own_command hremove).bind fun _ => (own_command hcount).bind fun remaining => ?_
  split
  · exact (own_elsewhere (fun _ => rfl) (fun _ => rfl)).bind fun _ => Prog.keeps_ret true
  · exact Prog.keeps_ret false

/-! The manager. -/

theorem own_onLocalSubscribe (env : Env) (channel : Channel) :
    (onLocalSubscribe env channel).Keeps (fun _ => True) (OwnMove own) :=
  (own_locally (Node.countUp channel) (fun _ => peersFrom_registry rfl)).bind fun _ =>
    (own_withRedis (own_elsewhere (fun _ => rfl) (fun _ => rfl))).bind fun _ =>
      (own_withRedis (own_elsewhere (fun _ => rfl) (fun _ => rfl))).bind fun _ =>
        own_locally (Node.startListener channel)
          (fun n => peersFrom_registry (n.registry_startListener channel))

theorem own_onLocalUnsubscribe (env : Env) (channel : Channel) :
    (onLocalUnsubscribe env channel).Keeps (fun _ => True) (OwnMove own) := by
  refine (Prog.keeps_act (fun g _ => ?_)).bind fun last => ?_
  · exact ⟨trivial, move_node (peersFrom_registry (Node.registry_countDown channel g.node))⟩
  split
  · exact own_withRedis (own_elsewhere (fun _ => rfl) (fun _ => rfl))
  · exact Prog.keeps_ret ()

/-! Sessions. -/

/-- The owners after a hash has been written. -/
theorem owners_setSession {r : Redis} {id : String} {v : Option (Timed SessionHash)}
    {e : String × String} (he : e ∈ owners (r.setSession id v)) :
    e ∈ owners r ∨ e.1 = id ∧ ∃ w, v = some w ∧ w.val.tenantId = some e.2 := by
  obtain ⟨w, hw, ht⟩ := he
  have hget : (r.setSession id v).sessions e.1 = if e.1 = id then v else r.sessions e.1 :=
    Function.update_apply _ _ _ _
  rw [hget] at hw
  split at hw
  · rename_i hid
    exact Or.inr ⟨hid, w, hw, ht⟩
  · exact Or.inl ⟨w, hw, ht⟩

/-- A hash is written whose owner, if it names one, is the one it had. -/
theorem ownSession_setSession {r : Redis} {id : String} (hid : id ∈ own)
    {v : Option (Timed SessionHash)}
    (h : ∀ w t, v = some w → w.val.tenantId = some t → (id, t) ∈ owners r) :
    OwnSession own r (r.setSession id v) := by
  refine ⟨fun id' hne => ?_, fun _ _ _ => rfl, fun e he => ?_⟩
  · have hne' : id' ≠ id := fun heq => hne (heq ▸ hid)
    exact Function.update_of_ne hne' _ _
  · rcases owners_setSession he with he | ⟨rfl, w, hw, ht⟩
    · exact he
    · exact h w e.2 hw ht

/-- `EXPIRE` keeps the hash. -/
theorem own_expireSession {id : String} (hid : id ∈ own) (ttl : Nat) (r : Redis) :
    OwnSession own r (r.setSession id (Timed.expire r.now ttl (r.sessions id))) := by
  refine ownSession_setSession hid (fun w t hw ht => ?_)
  obtain ⟨hash, hlive, hlasting⟩ := Option.bind_eq_some_iff.mp hw
  obtain ⟨v, hv, hval⟩ := Timed.live_val hlive
  exact ⟨v, hv, by rw [hval, ← Timed.val_lasting hlasting]; exact ht⟩

/-- `HSET` without `tenant_id` keeps the owner of the live hash. -/
theorem own_touchSession (env : Env) {id : String} (hid : id ∈ own) (nodeId : NodeId) :
    (Sessions.touchSession env id nodeId).Keeps (fun _ => True) (OwnSession own) := by
  refine (own_command (fun r => ownSession_setSession hid (fun w t hw ht => ?_))).bind fun _ =>
    own_command (fun r => own_expireSession hid _ r)
  obtain rfl := Option.some.inj hw
  obtain ⟨hash, hlive, ht⟩ := Option.bind_eq_some_iff.mp ht
  obtain ⟨v, hv, hval⟩ := Timed.live_val hlive
  exact ⟨v, hv, by rw [hval]; exact ht⟩

theorem own_recordAck (env : Env) {id : String} (hid : id ∈ own) (channel : Channel)
    (sequence : Int) :
    (Sessions.recordAck env id channel sequence).Keeps (fun _ => True) (OwnSession own) := by
  refine (own_command (fun r => OwnSession.refl r)).bind fun current => ?_
  split
  · refine own_command (fun r => ⟨fun _ _ => rfl, fun id' ch hne => ?_, subset_refl _⟩)
    have hne' : (id', ch) ≠ (id, channel) := by
      rintro ⟨⟩
      exact hne hid
    exact Function.update_of_ne hne' _ _
  · exact Prog.keeps_ret ()

/-! The frame loop. -/

variable {env : Env} {p : Peer}

theorem own_replayInto (channel : Channel) (messages : List StreamEntry) :
    (tryLocally (Node.replayInto env p.connectionId channel messages)).Keeps (fun _ => True)
      (OwnMove own) :=
  Prog.keeps_atomic (fun g _ => ⟨trivial, move_node (peersFrom_outbound
    (outbound_replayInto env p.connectionId channel messages g.node))⟩)

theorem own_resumeChannels : ∀ (acks : List (Channel × Int)) (replayed : List (Channel × Nat))
    (gaps : List Channel),
    (resumeChannels env p acks replayed gaps).Keeps (fun _ => True) (OwnMove own)
  | [], _, _ => trivial
  | (channel, lastAck) :: rest, replayed, gaps => by
    have hread : (replayChannel channel lastAck).Keeps (fun _ => True) (OwnSession own) :=
      (own_elsewhere (fun _ => rfl) (fun _ => rfl)).bind fun _ => trivial
    unfold resumeChannels
    split
    · refine (own_withRedis hread).bind fun result => ?_
      split
      · exact (own_sendText _ _).bind fun _ => own_resumeChannels rest _ _
      · have hreattach : (reattach env p channel result.messages).Keeps (fun _ => True)
            (OwnMove own) := (own_replayInto channel result.messages).bind fun _ =>
          (own_subscribe _ channel).bind fun _ => own_onLocalSubscribe env channel
        exact hreattach.bind fun _ => own_resumeChannels rest _ _
    · exact own_resumeChannels rest _ _

/-- A frame writes the session of its connection, if any. -/
theorem own_onFrame (hid : p.sessionId ∈ own) (raw : Json) :
    (onFrame env p raw).Keeps (fun _ => True) (OwnMove own) := by
  have hreply : ∀ frame, ((Gateway.sendText p.connectionId frame).bind fun _ =>
      (.ret true : Prog Gateway Exn Bool)).Keeps (fun _ => True) (OwnMove own) :=
    fun frame => (own_sendText _ frame).bind fun _ => Prog.keeps_ret true
  cases raw with
  | obj fields =>
    simp only [onFrame]
    cases branchOf fields with
    | pong =>
      refine (Prog.keeps_modify (fun g _ => ?_)).bind fun _ =>
        (own_withRedis (own_touchSession env hid _)).bind fun _ =>
          (own_whenUser (fun user => own_elsewhere (fun _ => rfl) (fun _ => rfl))).bind
            fun _ => Prog.keeps_ret true
      refine ⟨trivial, move_node (peersFrom_updateConn p.connectionId ?_ g.node)⟩
      exact fun _ => rfl
    | presence =>
      exact (own_whenUser (fun user => own_setState env _ user _)).bind fun _ => Prog.keeps_ret true
    | subscribe =>
      simp only [onSubscribe]
      split
      · exact hreply _
      · split
        · exact (own_subscribe _ _).bind fun _ => (own_onLocalSubscribe env _).bind fun _ => hreply _
        · exact hreply _
    | unsubscribe =>
      simp only [onUnsubscribe]
      split
      · trivial
      · exact (own_unsubscribe _ _).bind fun _ => (own_onLocalUnsubscribe env _).bind
          fun _ => hreply _
    | ack =>
      simp only [onAckFrame]
      split
      · trivial
      · rename_i channel sequence _
        exact (own_withRedis (own_recordAck env hid channel sequence)).bind fun _ =>
          (own_updateConn _ (fun conn => (conn.onAck env channel sequence).2)
            (fun _ => rfl)).bind fun _ => Prog.keeps_ret true
    | resume =>
      simp only [onResume]
      split
      · trivial
      · exact (own_resumeChannels _ _ _).bind fun _ => hreply _
    | disconnect => trivial
    | other => exact hreply _
  | _ => trivial

theorem own_cleanupConnection :
    (cleanupConnection env p).Keeps (fun _ => True) (OwnMove own) := by
  have hdead : ∀ g : Gateway, OwnMove own g (markDead p.connectionId g).2 := fun g => by
    refine move_node (peersFrom_updateConn p.connectionId ?_ g.node)
    exact fun _ => rfl
  refine (Prog.keeps_act (fun g _ => ⟨trivial, hdead g⟩)).bind fun channels => ?_
  exact (Prog.Keeps.forEach (fun channel _ => own_onLocalUnsubscribe env channel)).bind
    fun _ => (own_whenUser (fun user => (own_connectionOffline _ user _).bind
      fun _ => Prog.keeps_ret ())).bind fun _ => own_locally _ (peersFrom_remove p.connectionId)

theorem own_look {f : Gateway → α} :
    (Prog.act (fun g => (f g, g)) : Prog Gateway Exn α).Keeps (fun _ => True) (OwnMove own) :=
  Prog.keeps_act (fun _ _ => ⟨trivial, ⟨fun _ _ => rfl, fun _ _ _ => rfl, fun _ he => Or.inl he,
    fun _ conn hx => Or.inl ⟨conn, hx, rfl⟩⟩⟩)

theorem own_afterBody (outcome : Except Exn Bool) :
    (afterBody env p outcome).Keeps (fun _ => True) (OwnMove own) := by
  unfold afterBody
  split
  · refine own_look.bind fun active => ?_
    split
    · exact Prog.keeps_ret true
    · exact own_cleanupConnection.bind fun _ => Prog.keeps_ret false
  · exact own_cleanupConnection.bind fun _ => Prog.keeps_ret false
  · refine own_cleanupConnection.bind fun _ => ?_
    split <;> trivial

theorem own_turns (hid : p.sessionId ∈ own) : ∀ inputs : List Received,
    (turns env p inputs).Keeps (fun _ => True) (OwnMove own)
  | [] => Prog.keeps_ret ()
  | input :: rest => by
    have hbody : (onReceived env p input).Keeps (fun _ => True) (OwnMove own) := by
      cases input with
      | json raw => exact own_onFrame hid raw
      | garbage => trivial
      | closed => trivial
    refine (hbody.try.bind fun outcome => own_afterBody outcome).bind fun again => ?_
    split
    · exact own_turns hid rest
    · exact Prog.keeps_ret ()

/-- **The frame loop of a connection writes no session but its own.** -/
theorem own_frameLoop (hid : p.sessionId ∈ own) (inputs : List Received) :
    (frameLoop env p inputs).Keeps (fun _ => True) (OwnMove own) := by
  refine own_look.bind fun active => ?_
  split
  · exact own_turns hid inputs
  · exact own_cleanupConnection

end Frames

/-! ## 4. The handshake learns whose session it has -/

section Handshake

variable {env : Env} {s : Socket} {newId tenantId : String} {K : Set (String × String)} {α : Type}

/-- The program writes only what a handler of the tenant may, given what it has seen of the owners
of sessions. -/
abbrev HandlerLearns (newId tenantId : String) (Q : Set (String × String) → α → Prop)
    (p : Prog Gateway Exn α) (K : Set (String × String)) : Prop :=
  p.Learns (fun g => owners g.redis) (HandlerWrites newId tenantId) Q K

/-- A program that writes no session but those known to belong to the tenant. -/
theorem learns_of_own {own : Set String} {p : Prog Gateway Exn α}
    (hp : p.Keeps (fun _ => True) (OwnMove own)) (hown : ∀ id ∈ own, (id, tenantId) ∈ K) :
    HandlerLearns newId tenantId (fun J _ => K ⊆ J) p K := by
  refine Prog.Keeps.learns (fun J g g' hJ hmove => ?_) hp (subset_refl K)
  exact hmove.mono (fun id hid => Or.inr (hJ (hown id hid))) (Set.empty_subset _)
    (Set.empty_subset _)

/-- One that writes no session at all. -/
theorem learns_of_none {p : Prog Gateway Exn α} (hp : p.Keeps (fun _ => True) (OwnMove ∅)) :
    HandlerLearns newId tenantId (fun J _ => K ⊆ J) p K :=
  learns_of_own hp (fun _ hid => absurd hid (Set.notMem_empty _))

/-- A command, by what it does when it does not fail. -/
theorem learns_command {f : Redis → Except Exn α × Redis} {Q : Set (String × String) → α → Prop}
    (hG : ∀ g, HandlerWrites newId tenantId (K ∪ owners g.redis) g (setRedis (f g.redis).2 g))
    (hQ : ∀ r a, (f r).1 = .ok a → Q (K ∪ owners r ∪ owners (f r).2) a) :
    HandlerLearns newId tenantId Q (withRedis (command f)) K := by
  intro g
  show HandlerWrites newId tenantId (K ∪ owners g.redis) g (setRedis (attempt f g.redis).2 g) ∧
    (Prog.lift redis setRedis (Prog.ofExcept (attempt f g.redis).1)).Learns _ _ _
      (K ∪ owners g.redis ∪ owners (attempt f g.redis).2)
  rcases attempt_cases f g.redis with ⟨fs, hrun⟩ | ⟨fs, hrun⟩
  · rw [hrun]
    exact ⟨move_redis (ownSession_of_eq rfl rfl), trivial⟩
  · rw [hrun]
    have hmove := hG (setRedis { g.redis with faults := fs } g)
    refine ⟨⟨hmove.sessions, hmove.acks, hmove.owners, hmove.conns⟩, ?_⟩
    cases hres : (f { g.redis with faults := fs }).1 with
    | error e => trivial
    | ok a => exact hQ _ a hres

/-- A hash that names a tenant has been seen. -/
theorem learns_requestedSession (requested : Json) :
    HandlerLearns newId tenantId (fun J existing => ∀ t,
      existing.bind SessionHash.tenantId = some t → (env.strOf requested, t) ∈ J)
      (withRedis (requestedSession env requested)) K := by
  unfold requestedSession
  split
  · refine learns_command (fun g => move_redis (OwnSession.refl _)) (fun r existing hread t ht => ?_)
    obtain rfl := Except.ok.inj hread
    obtain ⟨hash, hlive, ht⟩ := Option.bind_eq_some_iff.mp ht
    obtain ⟨v, hv, rfl⟩ := Timed.live_val hlive
    exact Or.inl (Or.inr ⟨v, hv, ht⟩)
  · exact fun t ht => absurd ht (by simp)

/-- `create_session` writes the session that has been drawn, and has seen it when it is done. -/
theorem learns_createSession (nodeId : NodeId) :
    HandlerLearns newId tenantId (fun J sessionId => (sessionId, tenantId) ∈ J)
      (withRedis (Sessions.createSession env newId tenantId nodeId)) K := by
  have hset : HandlerLearns newId tenantId (fun J _ => (newId, tenantId) ∈ J)
      (withRedis (command (fun r => (.ok (), r.setSession newId
        (some ⟨⟨some tenantId, nodeId, some r.now, r.now⟩,
          Timed.deadlineOf r.now (r.sessions newId)⟩))))) K := by
    refine learns_command (fun g => ⟨fun id hid => ?_, fun _ _ _ => rfl, fun e he => ?_,
      fun _ conn hx => Or.inl ⟨conn, hx, rfl⟩⟩) (fun r a _ => Or.inr ⟨_, Function.update_self .., rfl⟩)
    · exact Function.update_of_ne (fun heq => hid (Or.inl heq)) _ _
    · rcases owners_setSession he with he | ⟨hid, w, hw, ht⟩
      · exact Or.inl he
      · obtain rfl := Option.some.inj hw
        exact Or.inr (Prod.ext hid (Option.some.inj ht).symm)
  unfold withRedis Sessions.createSession
  rw [Prog.bind_eq, Prog.lift_bind]
  refine hset.bind fun J _ _ hJ => ?_
  rw [Prog.bind_eq, Prog.lift_bind]
  have hexpire : (withRedis (command (fun r => (.ok (), r.setSession newId (Timed.expire r.now
      env.settings.sessionResumeWindowSeconds (r.sessions newId)))))).Keeps (fun _ => True)
        (OwnMove {newId}) :=
    own_withRedis (own_command (fun r => own_expireSession (Set.mem_singleton newId) _ r))
  refine (learns_of_own hexpire (fun id hid => ?_)).bind fun J' _ _ hJ' => hJ' hJ
  rw [hid]
  exact hJ

/-- **The session a connection gets has been seen to belong to its tenant.** -/
theorem learns_resolveSession (requested : Json) :
    HandlerLearns s.newSessionId tenantId (fun J sessionId => (sessionId, tenantId) ∈ J)
      (withRedis (resolveSession env s tenantId requested)) K := by
  unfold withRedis resolveSession
  rw [Prog.bind_eq, Prog.lift_bind]
  refine (learns_requestedSession requested).bind fun J existing _ hJ => ?_
  split
  · rename_i howner
    rw [Prog.bind_eq, Prog.lift_bind]
    have hknown := hJ tenantId howner
    have htouch := own_touchSession env (Set.mem_singleton (env.strOf requested))
      env.settings.nodeId
    refine (learns_of_own (own_withRedis htouch) (fun id hid => ?_)).bind
      fun J' _ _ hJ' => hJ' hknown
    rw [hid]
    exact hknown
  · exact learns_createSession env.settings.nodeId

theorem learns_establish (fields : List (String × Json)) :
    HandlerLearns s.newSessionId tenantId (fun J p => (p.sessionId, tenantId) ∈ J)
      (establish env s tenantId fields) K := by
  refine (learns_resolveSession _).bind fun J sessionId _ hJ => ?_
  have hadd : ∀ userId, HandlerLearns s.newSessionId tenantId (fun J' _ => J ⊆ J')
      (locally (Node.add (newConnection s.connectionId sessionId tenantId userId))) J := by
    intro userId g
    refine ⟨⟨fun _ _ => rfl, fun _ _ _ => rfl, fun _ he => Or.inl he, fun x conn' hx => ?_⟩,
      fun _ he => Or.inl (Or.inl he)⟩
    have hget := Registry.get_add g.node.registry x
      (newConnection s.connectionId sessionId tenantId userId)
    rw [show (setNode (Node.add (newConnection s.connectionId sessionId tenantId userId) g.node)
      g).node.registry = g.node.registry.add (newConnection s.connectionId sessionId tenantId userId)
      from rfl, hget] at hx
    split at hx
    · obtain rfl := Option.some.inj hx
      exact Or.inr ⟨Or.inl hJ, rfl⟩
    · exact Or.inl ⟨conn', hx, rfl⟩
  refine (hadd _).bind fun J1 _ _ h1 => ?_
  refine (learns_of_none (own_whenUser (fun user => own_connectionOnline env _ user _))).bind
    fun J2 _ _ h2 => ?_
  refine (learns_of_none (own_updateConn s.connectionId
    (fun conn => { conn with sender := .getting }) (fun _ => rfl))).bind fun J3 _ _ h3 => ?_
  exact (learns_of_none (own_sendText _ _)).bind fun J4 _ _ h4 => h4 (h3 (h2 (h1 hJ)))

/-- A refusal writes no session and serves nobody. -/
theorem learns_refuse {Q : Set (String × String) → Option Peer → Prop} (hQ : ∀ J, Q J none)
    (x : ConnId) (code : ErrorCode) (text : String) :
    HandlerLearns newId tenantId Q ((sendError x code text).bind fun _ => .ret none) K :=
  (learns_of_none (own_sendText x _)).bind fun J _ _ _ => hQ J

theorem learns_handshake (hauth : s.authenticate = .ok tenantId) :
    HandlerLearns s.newSessionId tenantId
      (fun J q => ∀ p, q = some p → (p.sessionId, tenantId) ∈ J) (handshake env s) K := by
  have hnone : ∀ J : Set (String × String), ∀ p : Peer, none = some p → (p.sessionId, tenantId) ∈ J :=
    fun _ _ hp => nomatch hp
  unfold handshake
  split
  · exact hnone K
  · split
    · rw [hauth]
      refine (learns_of_none own_look).bind fun J full _ _ => ?_
      split
      · exact learns_refuse hnone _ _ _
      · refine (learns_establish _).bind fun J' p _ hp => ?_
        intro p' heq
        obtain rfl := Option.some.inj heq
        exact hp
    · exact learns_refuse hnone _ _ _
  · trivial

/-- **The handler of a socket that authenticated as a tenant** writes the session drawn for it and
sessions it has seen to belong to the tenant, whatever it is sent and whatever runs in between. -/
theorem learns_handleConnection (hauth : s.authenticate = .ok tenantId) (inputs : List Received) :
    HandlerLearns s.newSessionId tenantId (fun _ _ => True) (handleConnection env s inputs) K := by
  refine (learns_handshake hauth).bind fun J q _ hq => ?_
  split
  · rename_i p
    have hloop : (frameLoop env p inputs).Keeps (fun _ => True) (OwnMove {p.sessionId}) :=
      own_frameLoop (Set.mem_singleton _) inputs
    refine (learns_of_own hloop (fun id hid => ?_)).mono (fun hK hw => hw.mono hK) (subset_refl J)
      (fun _ _ _ _ _ _ => trivial)
    rw [hid]
    exact hq p rfl
  · trivial

/-- A socket whose token is refused writes no session. -/
theorem own_handleConnection {text : String} (hauth : s.authenticate = .error text)
    (inputs : List Received) :
    (handleConnection env s inputs).Keeps (fun _ => True) (OwnMove ∅) := by
  have hrefuse : ∀ (code : ErrorCode) (text : String),
      (sendError s.connectionId code text).Keeps (fun _ => True) (OwnMove ∅) :=
    fun code text => own_sendText _ _
  unfold handleConnection handshake
  split
  · exact Prog.keeps_ret ()
  · split
    · rw [hauth]
      have hsend := hrefuse .authFailed text
      rw [← refuse_bind env _ _ _ inputs] at hsend
      exact hsend
    · have hsend := hrefuse .invalidFrame "expected CONNECT frame first"
      rw [← refuse_bind env _ _ _ inputs] at hsend
      exact hsend
  · trivial

theorem own_terminateSlowConsumer (x : ConnId) :
    (terminateSlowConsumer x).Keeps (fun _ => True) (OwnMove ∅) :=
  (own_updateConn x (fun conn => { conn with state := .dead }) (fun _ => rfl)).bind fun _ =>
    (own_sendText x _).catch fun _ => Prog.keeps_ret ()

end Handshake

/-! ## 5. All sessions of the system -/

/-- The session ids drawn for sockets, each with the tenant the socket's token belongs to. -/
def drawn (acts : List WorldAct) : List (String × String) :=
  acts.filterMap (fun
    | .accept _ s _ => s.authenticate.toOption.map (fun t => (s.newSessionId, t))
    | _ => none)

/-- The tenant behind the task that a step starts, if it is the handler of a socket of one. -/
def World.tenantOf (w : World) : WorldAct → List (Option String)
  | .accept _ s _ => [s.authenticate.toOption]
  | .terminate n => if (w.nodes n).terminating = [] then [] else [none]
  | _ => []

/-- The tenants behind the tasks of a run, in the order of `World.tasks`. -/
def taskTenants (env : Env) (w : World) (acts : List WorldAct) : List (Option String) :=
  emitted (World.step env) World.tenantOf w acts

/-- The sessions created in a run: at some moment their hash named the tenant.  `create_session`
alone writes that field. -/
def Created (env : Env) (w : World) (acts : List WorldAct) : Set (String × String) :=
  {e | ∃ before, before <+: acts ∧ e ∈ owners (runAll (World.step env) w before).redis}

/-- Between the two states the key has been created, changed, refreshed or deleted. -/
def World.WritesKey (w w' : World) (key : String) : Prop :=
  (∃ id, key = sessionKey id ∧ w'.redis.sessions id ≠ w.redis.sessions id) ∨
    ∃ id channel, key = sessionAckKey id channel ∧
      w'.redis.acks (id, channel) ≠ w.redis.acks (id, channel)

section Runs

variable {env : Env} {w w₀ : World} {acts : List WorldAct} {a : WorldAct}

theorem drawn_append (acts acts' : List WorldAct) :
    drawn (acts ++ acts') = drawn acts ++ drawn acts' := List.filterMap_append

theorem created_now : owners (runAll (World.step env) w₀ acts).redis ⊆ Created env w₀ acts :=
  fun _ he => ⟨acts, List.prefix_refl acts, he⟩

theorem created_mono : Created env w₀ acts ⊆ Created env w₀ (acts ++ [a]) :=
  fun _ ⟨before, hpre, he⟩ => ⟨before, hpre.trans (List.prefix_append _ _), he⟩

theorem runAll_snoc : runAll (World.step env) w₀ (acts ++ [a]) =
    (runAll (World.step env) w₀ acts).step env a := runAll_append _ _ _ _

theorem created_snoc {e : String × String} (he : e ∈ Created env w₀ (acts ++ [a])) :
    e ∈ Created env w₀ acts ∨ e ∈ owners ((runAll (World.step env) w₀ acts).step env a).redis := by
  obtain ⟨before, hpre, he⟩ := he
  rcases List.prefix_concat_iff.mp hpre with rfl | hpre
  · rw [runAll_snoc] at he
    exact Or.inr he
  · exact Or.inl ⟨before, hpre, he⟩

/-! What the steps do that are not taken by a handler. -/

theorem peersFrom_onNode {n : NodeId} {f : Node → Node} (h : (w.nodes n).PeersFrom (f (w.nodes n)))
    (m : NodeId) : (w.nodes m).PeersFrom ((w.onNode n f).nodes m) := by
  simp only [World.onNode, Function.update_apply]
  split
  · rename_i hm
    rw [hm]
    exact h
  · exact Node.PeersFrom.refl _

theorem peersFrom_conn (n : NodeId) (x : ConnId) {f : Connection → Connection}
    (hf : ∀ conn, (f conn).ident = conn.ident) (m : NodeId) :
    (w.nodes m).PeersFrom ((w.onNode n (Node.updateConn x f)).nodes m) :=
  peersFrom_onNode (peersFrom_updateConn x (fun conn => congrArg Prod.fst (hf conn)) _) m

theorem peersFrom_put {n : NodeId} {g : Gateway} (h : (w.nodes n).PeersFrom g.node) (m : NodeId) :
    (w.nodes m).PeersFrom ((w.put n g).nodes m) :=
  peersFrom_onNode (f := fun _ => g.node) h m

theorem fire_sessions (call : PublishCall) (r : Redis) (st : Stage) :
    (Stage.fire env call r st).1.sessions = r.sessions ∧
      (Stage.fire env call r st).1.acks = r.acks := by
  cases st with
  | stored n =>
    simp only [Stage.fire, xtrim]
    split <;> exact ⟨rfl, rfl⟩
  | _ => exact ⟨rfl, rfl⟩

theorem publisher_sessions (env : Env) (p : Publishers) (i : Nat) :
    (p.step env i).redis.sessions = p.redis.sessions ∧ (p.step env i).redis.acks = p.redis.acks := by
  rcases Publishers.step_cases env p i with
    heq | ⟨before, call, st, after, -, -, -, ⟨rest, -, heq⟩ | ⟨fs, -, heq⟩⟩
  · rw [heq]
    exact ⟨rfl, rfl⟩
  · rw [heq]
    exact ⟨rfl, rfl⟩
  · rw [heq]
    exact fire_sessions call { p.redis with faults := fs } st

theorem listener_sessions (env : Env) (channel : Channel) (b : ListenerAct) (g : Gateway) :
    (listenerStep env channel b g).redis.sessions = g.redis.sessions ∧
      (listenerStep env channel b g).redis.acks = g.redis.acks ∧
      g.node.PeersFrom (listenerStep env channel b g).node := by
  rcases listenerStep_cases env channel b g with heq | ⟨l, -, -, -, hcase⟩
  · rw [heq]
    exact ⟨rfl, rfl, Node.PeersFrom.refl _⟩
  rcases hcase with ⟨-, -, heq⟩ | ⟨-, -, m, rest, -, heq⟩ | ⟨-, -, heq⟩ | ⟨-, -, heq⟩ | ⟨-, -, heq⟩
  · rw [heq]; exact ⟨rfl, rfl, peersFrom_registry rfl⟩
  · rw [heq]
    exact ⟨rfl, rfl, peersFrom_outbound (Node.outbound_deliverLocal env channel m g.node)⟩
  · rw [heq]; exact ⟨rfl, rfl, peersFrom_registry rfl⟩
  · rw [heq]; exact ⟨rfl, rfl, peersFrom_registry rfl⟩
  · rw [heq]; exact ⟨rfl, rfl, peersFrom_registry rfl⟩

/-- **Steps that are not taken by a task** write no session and register no connection. -/
theorem step_elsewhere (env : Env) (w : World) (a : WorldAct) (ha : ∀ i, a ≠ .task i) :
    (w.step env a).redis.sessions = w.redis.sessions ∧ (w.step env a).redis.acks = w.redis.acks ∧
      ∀ m, (w.nodes m).PeersFrom ((w.step env a).nodes m) := by
  cases a with
  | accept n s inputs => exact ⟨rfl, rfl, fun m => Node.PeersFrom.refl _⟩
  | task i => exact absurd rfl (ha i)
  | publish call => exact ⟨rfl, rfl, fun m => Node.PeersFrom.refl _⟩
  | publisher i =>
    obtain ⟨hs, hacks⟩ := publisher_sessions env ⟨w.redis, w.publishers⟩ i
    exact ⟨hs, hacks, fun m => Node.PeersFrom.refl _⟩
  | listener n channel b =>
    obtain ⟨hs, hacks, hp⟩ := listener_sessions (env.at n) channel b (w.gateway n)
    exact ⟨hs, hacks, peersFrom_put hp⟩
  | reap n =>
    have hreap : ∀ g : Gateway, (reap (env.at n) g).redis.sessions = g.redis.sessions ∧
        (reap (env.at n) g).redis.acks = g.redis.acks ∧ g.node.PeersFrom (reap (env.at n) g).node :=
      fun g => by
        unfold reap
        split
        · exact ⟨rfl, rfl, Node.PeersFrom.refl _⟩
        · exact ⟨rfl, rfl, peersFrom_registry rfl⟩
    obtain ⟨hs, hacks, hp⟩ := hreap (w.gateway n)
    exact ⟨hs, hacks, peersFrom_put hp⟩
  | terminate n =>
    simp only [World.step, World.stepTerminate]
    split
    · exact ⟨rfl, rfl, fun m => Node.PeersFrom.refl _⟩
    · rename_i x rest _
      exact ⟨rfl, rfl, peersFrom_onNode (w := w) (n := n)
        (f := fun node => { node with terminating := rest }) (peersFrom_registry rfl)⟩
  | sender n x => exact ⟨rfl, rfl, peersFrom_conn n x (Connection.ident_senderStep env)⟩
  | sendFails n x => exact ⟨rfl, rfl, peersFrom_conn n x Connection.ident_sendFails⟩
  | ping n x serverTime => exact ⟨rfl, rfl, peersFrom_conn n x (World.ident_pingConn env serverTime)⟩
  | timeout n x =>
    have hdead : ∀ conn : Connection, ({ conn with state := .dead } : Connection).ident = conn.ident :=
      fun _ => rfl
    exact ⟨rfl, rfl, peersFrom_conn n x hdead⟩
  | tick micros => exact ⟨rfl, rfl, fun m => Node.PeersFrom.refl _⟩

/-! Tasks. -/

/-- The task writes only what the tenant behind it may. -/
def ServesAs (ids : List (String × String)) (known : Set (String × String)) :
    Option String → Prog Gateway Exn Unit → Prop
  | some t, p => ∃ newId, (newId, t) ∈ ids ∧ HandlerLearns newId t (fun _ _ => True) p known
  | none, p => p.Keeps (fun _ => True) (OwnMove ∅)

variable {ids ids' : List (String × String)} {K K' : Set (String × String)} {tenant : Option String}

theorem ServesAs.mono {p : Prog Gateway Exn Unit} (h : ServesAs ids K tenant p) (hids : ids ⊆ ids')
    (hK : K ⊆ K') : ServesAs ids' K' tenant p := by
  cases tenant with
  | none => exact h
  | some t =>
    obtain ⟨newId, hnew, hp⟩ := h
    exact ⟨newId, hids hnew, hp.mono (fun hK hw => hw.mono hK) hK (fun _ _ _ _ _ _ => trivial)⟩

/-- One segment of a task: it writes sessions drawn for its tenant, and no others. -/
theorem ServesAs.segment {f : Gateway → Gateway} {k : Gateway → Prog Gateway Exn Unit}
    (h : ServesAs ids K tenant (.seg f k)) (hids : ∀ e ∈ K, e ∈ ids) {g : Gateway}
    (hg : owners g.redis ⊆ K) :
    SessionMove {id | ∃ t, tenant = some t ∧ (id, t) ∈ ids} {e | e ∈ ids} K g (f g) ∧
      ServesAs ids (K ∪ owners (f g).redis) tenant (k g) := by
  cases tenant with
  | none =>
    obtain ⟨-, hmove, hrest⟩ := h g trivial
    exact ⟨hmove.mono (Set.empty_subset _) (Set.empty_subset _) (Set.empty_subset _), hrest⟩
  | some t =>
    obtain ⟨newId, hnew, hp⟩ := h
    obtain ⟨hmove, hrest⟩ := hp g
    rw [Set.union_eq_left.mpr hg] at hmove hrest
    refine ⟨SessionMove.mono hmove (fun id hid => ⟨t, rfl, ?_⟩) (fun e he => ?_) (fun e he => he.1),
      newId, hnew, hrest⟩
    · rcases hid with rfl | hid
      · exact hnew
      · exact hids _ hid
    · rw [Set.mem_singleton_iff.mp he]
      exact hnew

/-- The tasks that a step adds, next to the tenants behind them. -/
theorem step_starts (env : Env) (w : World) (a : WorldAct) (ha : ∀ i, a ≠ .task i) :
    ∃ started, (w.step env a).tasks = w.tasks ++ started ∧
      List.Forall₂ (fun tenant t => ServesAs (drawn [a]) ∅ tenant t.2) (w.tenantOf a) started := by
  cases a with
  | accept n s inputs =>
    refine ⟨[(n, handleConnection (env.at n) s inputs)], rfl, .cons ?_ .nil⟩
    cases hauth : s.authenticate with
    | error text => exact own_handleConnection hauth inputs
    | ok t =>
      refine ⟨s.newSessionId, ?_, learns_handleConnection hauth inputs⟩
      simp [drawn, hauth, Except.toOption]
  | task i => exact absurd rfl (ha i)
  | terminate n =>
    simp only [World.step, World.stepTerminate, World.tenantOf]
    split
    · rename_i hnil
      rw [if_pos hnil]
      exact ⟨[], (List.append_nil _).symm, .nil⟩
    · rename_i x rest hcons
      rw [if_neg (by rw [hcons]; exact List.cons_ne_nil _ _)]
      exact ⟨[(n, terminateSlowConsumer x)], rfl, .cons (own_terminateSlowConsumer x) .nil⟩
  | _ => exact ⟨[], (List.append_nil _).symm, .nil⟩

/-! The invariant. -/

/-- `SessionMove` for the whole system. -/
structure World.Moves (own : Set String) (made joined : Set (String × String)) (w w' : World) :
    Prop where
  sessions : ∀ id, id ∉ own → w'.redis.sessions id = w.redis.sessions id
  acks : ∀ id channel, id ∉ own → w'.redis.acks (id, channel) = w.redis.acks (id, channel)
  owners : owners w'.redis ⊆ owners w.redis ∪ made
  conns : ∀ n x conn', (w'.nodes n).registry.byId.get? x = some conn' →
    (∃ conn, (w.nodes n).registry.byId.get? x = some conn ∧ conn.peer = conn'.peer) ∨
      (conn'.sessionId, conn'.tenantId) ∈ joined

theorem SessionMove.put {own : Set String} {made joined : Set (String × String)} {n : NodeId}
    {g : Gateway} (h : SessionMove own made joined (w.gateway n) g) :
    World.Moves own made joined w (w.put n g) := by
  refine ⟨h.sessions, h.acks, h.owners, fun m x conn' hx => ?_⟩
  simp only [World.put, Function.update_apply] at hx
  split at hx
  · rename_i hm
    rw [hm]
    exact h.conns x conn' hx
  · exact Or.inl ⟨conn', hx, rfl⟩

/-- After the run: sessions have been created under drawn ids only, every task writes only what the
tenant behind it may, and every connection's session was created for its tenant. -/
structure Sessioned (env : Env) (w₀ : World) (acts : List WorldAct) : Prop where
  ids : ∀ e ∈ Created env w₀ acts, e ∈ drawn acts
  tasks : List.Forall₂ (fun tenant t => ServesAs (drawn acts) (Created env w₀ acts) tenant t.2)
    (taskTenants env w₀ acts) (runAll (World.step env) w₀ acts).tasks
  conns : ∀ n x conn, ((runAll (World.step env) w₀ acts).nodes n).registry.byId.get? x = some conn →
    (conn.sessionId, conn.tenantId) ∈ Created env w₀ acts

/-- The ids whose sessions a step may write: those drawn for the tenant behind the task that takes
it. -/
def writable (env : Env) (w₀ : World) (acts : List WorldAct) (a : WorldAct) : Set String :=
  {id | ∃ i t, a = .task i ∧ (taskTenants env w₀ acts)[i]? = some (some t) ∧ (id, t) ∈ drawn acts}

/-- **What one step does to sessions.** -/
theorem Sessioned.moves (h : Sessioned env w₀ acts) (a : WorldAct) :
    World.Moves (writable env w₀ acts a) {e | e ∈ drawn acts} (Created env w₀ acts)
      (runAll (World.step env) w₀ acts) ((runAll (World.step env) w₀ acts).step env a) := by
  by_cases ha : ∀ i, a ≠ .task i
  · obtain ⟨hs, hacks, hp⟩ := step_elsewhere env (runAll (World.step env) w₀ acts) a ha
    exact ⟨fun id _ => by rw [hs], fun id channel _ => by rw [hacks],
      fun e he => Or.inl (by rw [owners_congr hs] at he; exact he),
      fun n x conn' hx => Or.inl (hp n x conn' hx)⟩
  · simp only [not_forall, not_not] at ha
    obtain ⟨i, rfl⟩ := ha
    simp only [World.step, World.stepTask]
    split
    · rename_i n f k hi
      obtain ⟨tenant, htenant, hserves⟩ := forall₂_label h.tasks hi
      obtain ⟨hmove, -⟩ := hserves.segment h.ids
        (g := (runAll (World.step env) w₀ acts).gateway n) created_now
      have hown : {id | ∃ t, tenant = some t ∧ (id, t) ∈ drawn acts} ⊆
          writable env w₀ acts (.task i) := by
        rintro id ⟨t, rfl, hid⟩
        exact ⟨i, t, rfl, htenant, hid⟩
      have hput := (hmove.mono hown (subset_refl _) (subset_refl _)).put
      exact ⟨hput.sessions, hput.acks, hput.owners, hput.conns⟩
    · exact ⟨fun _ _ => rfl, fun _ _ _ => rfl, fun _ he => Or.inl he,
        fun n x conn' hx => Or.inl ⟨conn', hx, rfl⟩⟩

theorem taskTenants_snoc : taskTenants env w₀ (acts ++ [a]) =
    taskTenants env w₀ acts ++ (runAll (World.step env) w₀ acts).tenantOf a := by
  simp only [taskTenants, emitted_append, emitted_cons, emitted_nil, List.append_nil]

/-- **One step keeps sessions apart.** -/
theorem Sessioned.snoc (h : Sessioned env w₀ acts) (a : WorldAct) :
    Sessioned env w₀ (acts ++ [a]) := by
  have hmove := h.moves a
  have hids : drawn acts ⊆ drawn (acts ++ [a]) := fun e he => by
    rw [drawn_append]
    exact List.mem_append_left _ he
  refine ⟨fun e he => ?_, ?_, fun n x conn hx => ?_⟩
  · rcases created_snoc he with he | he
    · exact hids (h.ids e he)
    · rcases hmove.owners he with he | he
      · exact hids (h.ids e (created_now he))
      · exact hids he
  · have hold : List.Forall₂ (fun tenant t =>
        ServesAs (drawn (acts ++ [a])) (Created env w₀ (acts ++ [a])) tenant t.2)
        (taskTenants env w₀ acts) (runAll (World.step env) w₀ acts).tasks :=
      h.tasks.imp (fun tenant t ht => ht.mono hids created_mono)
    rw [taskTenants_snoc, runAll_snoc]
    by_cases ha : ∀ i, a ≠ .task i
    · obtain ⟨started, htasks, hstarted⟩ := step_starts env (runAll (World.step env) w₀ acts) a ha
      rw [htasks]
      refine List.rel_append hold (hstarted.imp (fun tenant t ht => ht.mono ?_ (Set.empty_subset _)))
      rw [drawn_append]
      exact List.subset_append_right _ _
    · simp only [not_forall, not_not] at ha
      obtain ⟨i, rfl⟩ := ha
      rw [show World.tenantOf _ (.task i) = [] from rfl, List.append_nil]
      have hnow : owners (runAll (World.step env) w₀ (acts ++ [.task i])).redis ⊆
          Created env w₀ (acts ++ [.task i]) := created_now
      rw [runAll_snoc] at hnow
      simp only [World.step, World.stepTask] at hnow ⊢
      split
      · rename_i n f k hi
        obtain ⟨tenant, htenant, hserves⟩ := forall₂_label h.tasks hi
        obtain ⟨-, hrest⟩ := hserves.segment h.ids
          (g := (runAll (World.step env) w₀ acts).gateway n) created_now
        rw [hi] at hnow
        refine forall₂_set ?_ hold htenant
        exact hrest.mono hids (Set.union_subset created_mono hnow)
      · exact hold
  · rw [runAll_snoc] at hx
    rcases hmove.conns n x conn hx with ⟨conn', hconn, hpeer⟩ | hconn
    · have hc := h.conns n x conn' hconn
      rw [show conn'.sessionId = conn.sessionId from congrArg Peer.sessionId hpeer,
        show conn'.tenantId = conn.tenantId from congrArg Peer.tenantId hpeer] at hc
      exact created_mono hc
    · exact created_mono hconn

theorem sessioned_run (env : Env) (faults : List Bool) (trims : List Nat)
    (socketFaults : NodeId → List Bool) (acts : List WorldAct) :
    Sessioned env (World.start faults trims socketFaults) acts := by
  induction acts using List.reverseRecOn with
  | nil =>
    refine ⟨fun e he => ?_, .nil, fun n x conn hx => absurd hx (by simp [World.start])⟩
    obtain ⟨before, hpre, v, hv, -⟩ := he
    obtain rfl := List.prefix_nil.mp hpre
    exact absurd hv (by simp [World.start])
  | append_singleton acts a ih => exact ih.snoc a

/-- A key that is written belongs to a session whose id was drawn for the tenant behind the task. -/
theorem Sessioned.writes (h : Sessioned env w₀ acts) {key : String}
    (hw : (runAll (World.step env) w₀ acts).WritesKey
      ((runAll (World.step env) w₀ acts).step env a) key) :
    ∃ id, IsKeyOf id key ∧ id ∈ writable env w₀ acts a := by
  have hmove := h.moves a
  rcases hw with ⟨id, rfl, hne⟩ | ⟨id, channel, rfl, hne⟩
  · exact ⟨id, Or.inl rfl, by_contra (fun hid => hne (hmove.sessions id hid))⟩
  · exact ⟨id, Or.inr ⟨channel, rfl⟩, by_contra (fun hid => hne (hmove.acks id channel hid))⟩

end Runs

/-- **Sessions of different tenants are isolated.**  Whatever clients ask for and whatever expires:
if the ids drawn for sockets are fresh UUIDs, a step that writes a key of a session whose id was
drawn for a tenant is a step of a handler of that tenant, and every registered connection's session
was created for the connection's tenant. -/
theorem sessions_isolated (env : Env) (faults : List Bool) (trims : List Nat)
    (socketFaults : NodeId → List Bool) (acts : List WorldAct)
    (hfresh : ((drawn acts).map Prod.fst).Nodup) (huuid : ∀ e ∈ drawn acts, IsUuid e.1) :
    (∀ before a after, acts = before ++ a :: after →
      ∀ id owner key, (id, owner) ∈ drawn acts → IsKeyOf id key →
        (runAll (World.step env) (World.start faults trims socketFaults) before).WritesKey
          (runAll (World.step env) (World.start faults trims socketFaults) (before ++ [a])) key →
        ∃ i, a = .task i ∧ (taskTenants env (World.start faults trims socketFaults) before)[i]? =
          some (some owner)) ∧
    ∀ n x conn, ((runAll (World.step env) (World.start faults trims socketFaults) acts).nodes
        n).registry.byId.get? x = some conn →
      (conn.sessionId, conn.tenantId) ∈ Created env (World.start faults trims socketFaults) acts ∧
        (conn.sessionId, conn.tenantId) ∈ drawn acts := by
  refine ⟨?_, fun n x conn hx => ?_⟩
  · rintro before a after rfl id owner key hid hkey hw
    have hinv := sessioned_run env faults trims socketFaults before
    rw [runAll_snoc] at hw
    obtain ⟨id', hkey', i, t, ha, htenant, hid'⟩ := hinv.writes hw
    have hmem : (id', t) ∈ drawn (before ++ a :: after) := by
      rw [drawn_append]
      exact List.mem_append_left _ hid'
    obtain rfl := session_keys_apart (huuid _ hid) (huuid _ hmem) hkey hkey'
    -- one id is drawn once, so it has one tenant
    have howner : (id, owner) = (id, t) := List.inj_on_of_nodup_map hfresh hid hmem rfl
    rw [(Prod.mk.inj howner).2]
    exact ⟨i, ha, htenant⟩
  · have hinv := sessioned_run env faults trims socketFaults acts
    have hc := hinv.conns n x conn hx
    exact ⟨hc, hinv.ids _ hc⟩

/-- The session the first of two clients gets, and the one drawn for the second. -/
def firstSession : String := "aaaaaaaa-0000-4000-8000-000000000001"

def secondSession : String := "bbbbbbbb-0000-4000-8000-000000000002"

/-- A client connects; a client of another tenant asks for the same session, acknowledges a message
and answers a PING. -/
def borrowingRun : List WorldAct :=
  .accept "n" ⟨"conn-a", firstSession, some (ClientFrame.connect "token" none).toJson,
      .ok "tenant-a"⟩ [] ::
    List.replicate 9 (.task 0) ++
  .accept "n" ⟨"conn-b", secondSession,
      some (ClientFrame.connect "token" (some firstSession)).toJson, .ok "tenant-b"⟩
      [.json (ClientFrame.ack "t-tenant-a:c" 7).toJson, .json ClientFrame.pong.toJson] ::
    List.replicate 20 (.task 1)

def beforeBorrowing : World := World.start [] [] (fun _ => [])

def afterBorrowing : World := runAll (World.step (.plain {})) beforeBorrowing borrowingRun

theorem borrowing_given_own : ((afterBorrowing.nodes "n").registry.byId.get? "conn-b").map
    Connection.sessionId = some secondSession := by decide +kernel

theorem borrowing_acks_own : Timed.live afterBorrowing.redis.now
    (afterBorrowing.redis.acks (secondSession, "t-tenant-a:c")) = some 7 := by decide +kernel

/-- The second client is given a session of its own, and no step of its handler writes a key of the
session it asked for. -/
theorem borrowed_session_untouched :
    ((drawn borrowingRun).map Prod.fst).Nodup ∧ (∀ e ∈ drawn borrowingRun, IsUuid e.1) ∧
      (∀ before a after, borrowingRun = before ++ a :: after → ∀ key, IsKeyOf firstSession key →
        (runAll (World.step (.plain {})) beforeBorrowing before).WritesKey
          (runAll (World.step (.plain {})) beforeBorrowing (before ++ [a])) key →
        ∃ i, a = .task i ∧
          (taskTenants (.plain {}) beforeBorrowing before)[i]? = some (some "tenant-a")) ∧
      Timed.live afterBorrowing.redis.now
        (afterBorrowing.redis.acks (secondSession, "t-tenant-a:c")) = some 7 ∧
      ∃ conn, (afterBorrowing.nodes "n").registry.byId.get? "conn-b" = some conn ∧
        conn.sessionId = secondSession ∧
        (conn.sessionId, conn.tenantId) ∈ Created (.plain {}) beforeBorrowing borrowingRun := by
  have hfresh : ((drawn borrowingRun).map Prod.fst).Nodup := by decide +kernel
  have huuid : ∀ e ∈ drawn borrowingRun, IsUuid e.1 := by decide +kernel
  have hfirst : (firstSession, "tenant-a") ∈ drawn borrowingRun := by decide +kernel
  obtain ⟨hwrites, hconns⟩ :=
    sessions_isolated (.plain {}) [] [] (fun _ => []) borrowingRun hfresh huuid
  obtain ⟨conn, hconn, hsession⟩ := Option.map_eq_some_iff.mp borrowing_given_own
  refine ⟨hfresh, huuid, ?_, borrowing_acks_own, conn, hconn, hsession,
    (hconns "n" "conn-b" conn hconn).1⟩
  intro before a after hsplit key hkey hw
  exact hwrites before a after hsplit firstSession "tenant-a" key hfirst hkey hw

end Relay
