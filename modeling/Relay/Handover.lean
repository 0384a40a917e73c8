/-
# RESUME under concurrent publishes

A RESUME hands a channel over from the stream to the live fanout in several steps: it reads the
stream (XRANGE), enqueues what it read, subscribes the connection in the registry, and starts the
channel's listener, whose Redis SUBSCRIBE takes effect later still.  A message that is appended
after the XRANGE is not replayed, and it only reaches the connection if its PUBLISH finds the
listener attached and the listener finds the connection subscribed.  Nothing in the code closes
the window before that.

`resume_loses_nothing` says that this window is the only one: if no message appended after the
XRANGE is PUBLISHed before the listener is attached, or processed by it before the connection is
subscribed, then every message beyond the client's position is enqueued, or the gap is reported.

The proof has two halves.  The handler's program satisfies, under interference of everything else
(`Rely`), a postcondition about the snapshot it read (`Settled`, by `Prog.Wp`).  And every message
that is not in the snapshot is underway at every moment (`Underway`): with its publisher, in the
listener's backlog, or accepted by the connection.
-/
import Mathlib
import Relay.Fanout
import Relay.Replay

namespace Relay

open Gateway Redis

/-! ## 1. What only grows -/

/-- What identifies a message. -/
def MessageFrame.key (m : MessageFrame) : String × Int := (m.messageId, m.sequence)

/-- What identifies an entry. -/
def StreamEntry.key (e : StreamEntry) : String × Int := (e.messageId, e.sequence)

namespace Connection

/-- A message has been enqueued on the connection. -/
def Accepted (c : Channel) (k : String × Int) (conn : Connection) : Prop :=
  ∃ item ∈ conn.accepted, ∃ m ∈ item.payload.message?, m.channel = c ∧ m.key = k

instance (c : Channel) (k : String × Int) (conn : Connection) : Decidable (conn.Accepted c k) :=
  inferInstanceAs (Decidable (∃ _ ∈ _, ∃ _ ∈ _, _))

/-- More has been written and enqueued since. -/
structure Grows (conn conn' : Connection) : Prop where
  wire : conn.wire <+: conn'.wire
  accepted : conn.accepted <+: conn'.accepted

theorem Grows.refl (conn : Connection) : Grows conn conn :=
  ⟨List.prefix_refl _, List.prefix_refl _⟩

theorem Grows.trans {a b c : Connection} (h : Grows a b) (k : Grows b c) : Grows a c :=
  ⟨h.wire.trans k.wire, h.accepted.trans k.accepted⟩

theorem Accepted.grows {c : Channel} {k : String × Int} {conn conn' : Connection}
    (h : conn.Accepted c k) (hg : conn.Grows conn') : conn'.Accepted c k := by
  obtain ⟨item, hi, hm⟩ := h
  exact ⟨item, hg.accepted.subset hi, hm⟩

theorem grows_put (conn : Connection) (item : QueuedMessage) : conn.Grows (conn.put item) :=
  ⟨List.prefix_refl _, List.prefix_append _ _⟩

theorem grows_enqueue {env : Env} {payload : ServerFrame} {priority : Priority}
    {channel : Option Channel} {sequence : Option Int} {conn conn' : Connection}
    (h : conn.enqueue env payload priority channel sequence = .ok conn') : conn.Grows conn' := by
  rcases enqueue_cases h with ⟨rfl, -⟩ | rfl
  · exact ⟨List.prefix_refl _, List.prefix_refl _⟩
  · exact grows_put _ _

theorem grows_delivered (env : Env) (channel : Channel) (m : MessageFrame) (conn : Connection) :
    conn.Grows (conn.delivered env channel m) := by
  unfold delivered
  split
  · split
    · rename_i he
      exact grows_enqueue he
    · exact Grows.refl conn
  · exact Grows.refl conn

theorem grows_waitForWindow (env : Env) (conn : Connection) (item : QueuedMessage) :
    conn.Grows (conn.waitForWindow env item) := by
  unfold waitForWindow release
  split
  · exact ⟨List.prefix_refl _, List.prefix_refl _⟩
  · split <;> exact ⟨List.prefix_refl _, List.prefix_refl _⟩

theorem grows_senderStep (env : Env) (conn : Connection) :
    conn.Grows ((conn.senderStep env).getD conn) := by
  cases h : conn.senderStep env with
  | none => exact Grows.refl conn
  | some conn' =>
    rcases senderStep_cases h with
      ⟨item, rest, -, -, ⟨-, rfl⟩ | ⟨-, rfl⟩⟩ | ⟨item, -, -, rfl⟩ | ⟨item, -, rfl⟩
    · exact Grows.trans (b := { conn with
        queue := rest, queueBytes := conn.queueBytes - item.sizeBytes })
        ⟨List.prefix_refl _, List.prefix_refl _⟩ (grows_waitForWindow env _ item)
    · exact ⟨List.prefix_refl _, List.prefix_refl _⟩
    · exact grows_waitForWindow env conn item
    · rw [Option.getD_some, senderLoop]
      split <;> exact ⟨List.prefix_append _ _, List.prefix_refl _⟩

theorem grows_pingConn (env : Env) (serverTime : Nat) (conn : Connection) :
    conn.Grows (World.pingConn env serverTime conn) := by
  unfold World.pingConn
  split
  · split
    · rename_i he
      exact grows_enqueue he
    · exact Grows.refl conn
  · exact Grows.refl conn

end Connection

namespace Node

variable {x y : ConnId} {n n' n'' : Node}

/-- Connection `x`, if it is registered, stays so and grows. -/
def Grows (x : ConnId) (n n' : Node) : Prop :=
  ∀ conn, n.registry.byId.get? x = some conn →
    ∃ conn', n'.registry.byId.get? x = some conn' ∧ conn.Grows conn'

theorem Grows.refl (x : ConnId) (n : Node) : n.Grows x n :=
  fun conn h => ⟨conn, h, Connection.Grows.refl conn⟩

theorem Grows.trans (h : n.Grows x n') (k : n'.Grows x n'') : n.Grows x n'' := by
  intro conn hc
  obtain ⟨conn', hc', hg⟩ := h conn hc
  obtain ⟨conn'', hc'', hg'⟩ := k conn' hc'
  exact ⟨conn'', hc'', hg.trans hg'⟩

theorem grows_of_get (h : n'.registry.byId.get? x = n.registry.byId.get? x) : n.Grows x n' :=
  fun conn hc => ⟨conn, h.trans hc, Connection.Grows.refl conn⟩

theorem grows_map {f : Connection → Connection} (h : n'.registry.byId.get? x =
      if x = y then (n.registry.byId.get? x).map f else n.registry.byId.get? x)
    (hf : ∀ conn : Connection, conn.Grows (f conn)) : n.Grows x n' := by
  intro conn hc
  rw [hc] at h
  split at h
  · exact ⟨f conn, h, hf conn⟩
  · exact ⟨conn, h, Connection.Grows.refl conn⟩

theorem grows_updateConn {f : Connection → Connection} (hf : ∀ conn : Connection, conn.Grows (f conn)) :
    n.Grows x (n.updateConn y f) := grows_map (Registry.get_updateConn _ _ _ _) hf

theorem grows_subscribe (channel : Channel) : n.Grows x (n.subscribe y channel) :=
  grows_map (Registry.get_subscribe _ _ _ _) (fun _ => ⟨List.prefix_refl _, List.prefix_refl _⟩)

theorem grows_write (frame : ServerFrame) (n : Node) : n.Grows x (n.write y frame) := by
  unfold write
  split
  · exact grows_updateConn (fun _ => ⟨List.prefix_append _ _, List.prefix_refl _⟩)
  · exact grows_of_get rfl

theorem grows_sendText (frame : ServerFrame) (n : Node) : n.Grows x (n.sendText y frame).2 := by
  unfold sendText
  split
  · exact grows_of_get rfl
  · rename_i rest _
    have hrest : n.Grows x { n with socketFaults := rest } := grows_of_get rfl
    exact hrest.trans (grows_write frame _)
  · exact grows_write frame n

/-- A write that does not fail puts the frame on the wire. -/
theorem wire_sendText {frame : ServerFrame} {conn : Connection}
    (hconn : n.registry.byId.get? x = some conn) (hok : (n.sendText x frame).1 = .ok ()) :
    (n.sendText x frame).2.registry.byId.get? x =
      some { conn with wire := conn.wire ++ [frame] } := by
  have hwrite : ∀ m : Node, m.registry = n.registry → (m.write x frame).registry.byId.get? x =
      some { conn with wire := conn.wire ++ [frame] } := by
    intro m hm
    rw [← hm] at hconn
    simp only [write, hconn, updateConn, Registry.get_updateConn, if_true]
    rfl
  unfold sendText at hok ⊢
  split at hok
  · exact absurd hok (by simp)
  · exact hwrite _ rfl
  · exact hwrite n rfl

theorem grows_enqueue (env : Env) (payload : ServerFrame) (priority : Priority)
    (channel : Option Channel) (sequence : Option Int) (n : Node) :
    n.Grows x (n.enqueue env y payload priority channel sequence).2 := by
  unfold enqueue
  split
  · exact Grows.refl x n
  · rename_i conn hconn
    split
    · rename_i conn' he
      intro c hc
      have hget := Registry.get_updateConn n.registry y x (fun _ => conn')
      rw [hc] at hget
      split at hget
      · rename_i hxy
        rw [hxy, hconn] at hc
        obtain rfl := Option.some.inj hc
        exact ⟨conn', hget, Connection.grows_enqueue he⟩
      · exact ⟨c, hget, Connection.Grows.refl c⟩
    · exact Grows.refl x n

theorem grows_replayInto (env : Env) (channel : Channel) : ∀ (l : List StreamEntry) (n : Node),
    n.Grows x (n.replayInto env y channel l).2
  | [], n => Grows.refl x n
  | e :: rest, n => by
    have h1 := grows_enqueue (x := x) (y := y) env (.message (replayFrame channel e)) .normal
      (some channel) (some e.sequence) n
    unfold replayInto
    split
    · rename_i m he
      rw [he] at h1
      exact h1.trans (grows_replayInto env channel rest m)
    · rename_i err m he
      rw [he] at h1
      exact h1

theorem grows_deliverLocal (env : Env) (channel : Channel) (m : MessageFrame) :
    n.Grows x (n.deliverLocal env channel m) := by
  intro conn hc
  have hget := get_deliverLocal env channel m n x
  rw [hc] at hget
  split at hget
  · exact ⟨_, hget, Connection.grows_delivered env channel m conn⟩
  · exact ⟨conn, hget, Connection.Grows.refl conn⟩

/-- A replay that is not refused has been enqueued. -/
theorem accepted_replayInto (env : Env) (c : Channel) : ∀ (l : List StreamEntry) {n : Node},
    (n.replayInto env x c l).1 = .ok () → (n.registry.byId.get? x).isSome = true →
      ∃ conn, (n.replayInto env x c l).2.registry.byId.get? x = some conn ∧
        ∀ e ∈ l, conn.Accepted c e.key
  | [], n, _, hx => by
    obtain ⟨conn, hconn⟩ := Option.isSome_iff_exists.mp hx
    exact ⟨conn, hconn, by simp⟩
  | e :: rest, n, hok, hx => by
    obtain ⟨conn, hconn⟩ := Option.isSome_iff_exists.mp hx
    rw [replayInto_cons env c e rest hconn] at hok ⊢
    split at hok
    · nomatch hok
    rename_i hroom
    rw [if_neg hroom]
    have hget := get_updateConn_self hconn (conn.put (replayItem env c e))
    obtain ⟨conn', hconn', hacc⟩ := accepted_replayInto env c rest hok (by rw [hget]; rfl)
    refine ⟨conn', hconn', fun e' he' => ?_⟩
    rcases List.mem_cons.mp he' with rfl | he'
    · -- enqueued now, and never taken back
      have hnow : (conn.put (replayItem env c e')).Accepted c e'.key :=
        ⟨_, List.mem_append_right _ (List.mem_singleton_self _), _, rfl, rfl, rfl⟩
      obtain ⟨conn₁, h₁, hg⟩ := grows_replayInto (x := x) (y := x) env c rest _ _ hget
      rw [hconn'] at h₁
      exact Option.some.inj h₁ ▸ hnow.grows hg
    · exact hacc e' he'

end Node

/-! ## 2. The segments of a RESUME -/

/-- What the RESUME branch of connection `x` does in one segment, when it reads the streams in
`S`: it attaches and never detaches. -/
structure Attaching (env : Env) (x : ConnId) (S : Channel → Prop) (g g' : Gateway) : Prop where
  grows : g.node.Grows x g'.node
  side : Side (fun _ => True) g.redis g'.redis
  ranged : ∀ c, ¬ S c → g'.redis.ranged c = g.redis.ranged c
  wired : Wired (ownedBy env g.redis) g.node → Wired (ownedBy env g'.redis) g'.node
  backlog : ∀ c, Wired (ownedBy env g.redis) g.node → backlog env c g' = backlog env c g

section Attaching

variable {env : Env} {x : ConnId} {S T : Channel → Prop} {g : Gateway}

theorem Attaching.mono {g' : Gateway} (hST : ∀ c, S c → T c) (h : Attaching env x S g g') :
    Attaching env x T g g' :=
  ⟨h.grows, h.side, fun c hc => h.ranged c (fun hs => hc (hST c hs)), h.wired, h.backlog⟩

theorem attaching_redis {r : Redis} (h : Side (fun _ => True) g.redis r)
    (hr : ∀ c, ¬ S c → r.ranged c = g.redis.ranged c) : Attaching env x S g (setRedis r g) := by
  have ho : ∀ t, ownedBy env r t = ownedBy env g.redis t := fun t => by
    simp only [ownedBy, h.subscribers]
  exact ⟨Node.Grows.refl x g.node, h, hr, fun hw => hw.congr rfl rfl rfl ho,
    fun c _ => backlog_congr rfl ho⟩

/-- A change of the process that leaves the listener tables alone. -/
theorem attaching_node {n : Node} (hg : g.node.Grows x n) (hl : n.listeners = g.node.listeners)
    (hr : n.retired = g.node.retired) (ht : n.nextTask = g.node.nextTask) :
    Attaching env x S g (setNode n g) :=
  ⟨hg, Side.refl _, fun _ _ => rfl, fun hw => hw.congr hl hr ht (fun _ => rfl),
    fun c _ => backlog_congr (congrArg (fun d => d.get? c) hl) (fun _ => rfl)⟩

theorem attaching_outbound {n : Node} (hg : g.node.Grows x n) (ho : g.node.Outbound n) :
    Attaching env x S g (setNode n g) :=
  attaching_node hg ho.listeners ho.retired ho.nextTask

theorem attaching_startListener (channel : Channel) :
    Attaching env x S g (setNode (g.node.startListener channel) g) :=
  ⟨Node.grows_of_get (by simp only [setNode, Node.registry_startListener]), Side.refl _, fun _ _ => rfl,
    fun hw => hw.startListener channel, fun _ hw => backlog_startListener hw channel⟩

theorem attempt_ranged {α : Type} {f : Redis → Except Exn α × Redis} {c : Channel}
    (h : ∀ r, (f r).2.ranged c = r.ranged c) (r : Redis) :
    (attempt f r).2.ranged c = r.ranged c := by
  unfold attempt
  split
  · rfl
  · exact h _
  · exact h r

theorem command_attaching {α : Type} {f : Redis → Except Exn α × Redis}
    (hs : ∀ r, Side (fun _ => True) r (f r).2) (hr : ∀ c, ¬ S c → ∀ r, (f r).2.ranged c = r.ranged c) :
    (withRedis (command f)).Keeps (fun _ => True) (Attaching env x S) := by
  intro g _
  refine ⟨trivial, attaching_redis (attempt_side hs _) (fun c hc => attempt_ranged (hr c hc) _), ?_⟩
  show (Prog.lift redis setRedis (Prog.ofExcept (attempt f g.redis).1)).Keeps _ _
  cases (attempt f g.redis).1 <;> trivial

theorem locally_attaching {f : Node → Node} (h : ∀ g, Attaching env x S g (setNode (f g.node) g)) :
    (locally f).Keeps (fun _ => True) (Attaching env x S) :=
  Prog.keeps_modify (fun g _ => ⟨trivial, h g⟩)

theorem sendText_attaching (env : Env) (frame : ServerFrame) :
    (Gateway.sendText x frame).Keeps (fun _ => True) (Attaching env x S) :=
  Prog.keeps_atomic (fun g _ => ⟨trivial, attaching_outbound (Node.grows_sendText frame g.node)
    (Node.outbound_sendText x frame g.node)⟩)

theorem replayChannel_attaching (env : Env) (x : ConnId) (channel : Channel) (lastAck : Int) :
    (withRedis (replayChannel channel lastAck)).Keeps (fun _ => True)
      (Attaching env x (fun c => c = channel)) := by
  have hx : (withRedis (command (xrange channel))).Keeps (fun _ => True)
      (Attaching env x (fun c => c = channel)) :=
    command_attaching (side_xrange channel) (fun c hc r => by simp [xrange, hc])
  intro g _
  obtain ⟨-, h2, -⟩ := hx g trivial
  refine ⟨trivial, h2, ?_⟩
  show (Prog.lift redis setRedis ((Prog.ofExcept (attempt (xrange channel) g.redis).1).bind
    _)).Keeps _ _
  cases (attempt (xrange channel) g.redis).1 <;> trivial

theorem onLocalSubscribe_attaching (channel : Channel) :
    (onLocalSubscribe env channel).Keeps (fun _ => True) (Attaching env x S) := by
  have hroom : ∀ (r : Redis) (v : Option (Timed (OSet NodeId))),
      Side (fun _ => True) r (r.setRoom channel v) := fun r v => side_setRoom r trivial v
  refine (locally_attaching (fun _ => attaching_node (Node.grows_of_get rfl) rfl rfl rfl)).bind
    fun _ => (command_attaching (fun r => hroom r _) (fun _ _ _ => rfl)).bind fun _ =>
      (command_attaching (fun r => hroom r _) (fun _ _ _ => rfl)).bind fun _ =>
        locally_attaching (fun _ => attaching_startListener channel)

/-- From the replay on: subscribe, and start the listener. -/
theorem subscribed_attaching (channel : Channel) :
    ((locally (Node.subscribe x channel)).bind fun _ => onLocalSubscribe env channel).Keeps
      (fun _ => True) (Attaching env x S) :=
  (locally_attaching (fun _ => attaching_node (Node.grows_subscribe channel) rfl rfl rfl)).bind
    fun _ => onLocalSubscribe_attaching channel

end Attaching

section Resume

variable {env : Env} {p : Peer}

theorem reattach_attaching {S : Channel → Prop} (channel : Channel) (messages : List StreamEntry) :
    (reattach env p channel messages).Keeps (fun _ => True) (Attaching env p.connectionId S) := by
  refine (Prog.keeps_atomic (fun g _ => ⟨trivial, ?_⟩)).bind fun _ => subscribed_attaching channel
  exact attaching_outbound (Node.grows_replayInto env channel messages g.node)
    (outbound_replayInto env p.connectionId channel messages g.node)

/-- The loop reads the streams it names. -/
theorem resumeChannels_attaching : ∀ (acks : List (Channel × Int)) (replayed : List (Channel × Nat))
    (gaps : List Channel), (resumeChannels env p acks replayed gaps).Keeps (fun _ => True)
      (Attaching env p.connectionId (fun c => c ∈ acks.map Prod.fst))
  | [], _, _ => trivial
  | (channel, lastAck) :: rest, replayed, gaps => by
    have hrest : ∀ replayed gaps, (resumeChannels env p rest replayed gaps).Keeps (fun _ => True)
        (Attaching env p.connectionId (fun c => c ∈ ((channel, lastAck) :: rest).map Prod.fst)) :=
      fun replayed gaps => Prog.Keeps.mono
        (fun _ _ _ h => h.mono (fun c hc => List.mem_cons_of_mem _ hc))
        (resumeChannels_attaching rest replayed gaps)
    unfold resumeChannels
    split
    · have hread := replayChannel_attaching env p.connectionId channel lastAck
      refine (Prog.Keeps.mono (fun _ _ _ h => h.mono
        (fun c hc => List.mem_cons.mpr (Or.inl hc))) hread).bind fun result => ?_
      split
      · exact (sendText_attaching env _).bind fun _ => hrest _ _
      · exact (reattach_attaching channel _).bind fun _ => hrest _ _
    · exact hrest _ _

/-- The channels with a gap only become more. -/
theorem resumeChannels_returns : ∀ (acks : List (Channel × Int)) (replayed : List (Channel × Nat))
    (gaps : List Channel), (resumeChannels env p acks replayed gaps).Returns (fun r => gaps ⊆ r.2)
  | [], _, _ => List.Subset.refl _
  | (channel, lastAck) :: rest, replayed, gaps => by
    unfold resumeChannels
    split
    · refine (Prog.Returns.any _).bind fun result _ => ?_
      split
      · refine (Prog.Returns.any _).bind fun _ _ => ?_
        exact (resumeChannels_returns rest _ _).mono
          (fun r hr => List.Subset.trans (List.subset_append_left gaps [channel]) hr)
      · exact (Prog.Returns.any _).bind fun _ _ => resumeChannels_returns rest _ _
    · exact resumeChannels_returns rest _ _

end Resume

/-! ## 3. What a RESUME has done for a channel -/

/-- What the rest of the system does to connection `x`, and to the snapshots of channel `c`, while
the RESUME runs. -/
structure Rely (x : ConnId) (c : Channel) (g g' : Gateway) : Prop where
  grows : g.node.Grows x g'.node
  ranged : g'.redis.ranged c = g.redis.ranged c

/-- The channel has been read for the `n`-th time (from 0): what XRANGE returned. -/
def snapshot (n : Nat) (c : Channel) (r : Redis) : Option (List StreamEntry) := (r.ranged c)[n]?

/-- The messages of the snapshot beyond the position have been enqueued on `x`. -/
def Replayed (x : ConnId) (c : Channel) (last : Int) (snap : List StreamEntry) (n : Node) : Prop :=
  ∃ conn, n.registry.byId.get? x = some conn ∧
    ∀ e ∈ snap, last < e.sequence → conn.Accepted c e.key

/-- Connection `x` has been told that the channel has a gap. -/
def GapReported (x : ConnId) (c : Channel) (n : Node) : Prop :=
  ∃ conn ∈ n.registry.byId.get? x, ∃ frame ∈ conn.wire, ∃ gaps ∈ frame.gaps?, c ∈ gaps

instance (x : ConnId) (c : Channel) (n : Node) : Decidable (GapReported x c n) :=
  inferInstanceAs (Decidable (∃ _ ∈ _, ∃ _ ∈ _, ∃ _ ∈ _, _))

/-- The loop has dealt with the channel: it has read the stream, and then it has enqueued the
replay or found a gap. -/
def Settled (before : Nat) (x : ConnId) (c : Channel) (last : Int) (gaps : List Channel)
    (g : Gateway) : Prop :=
  ∃ snap, snapshot before c g.redis = some snap ∧
    ((replayOf snap last).gap = true ∧ c ∈ gaps ∧ (g.node.registry.byId.get? x).isSome = true ∨
      (replayOf snap last).gap = false ∧ Replayed x c last snap g.node)

section Rely

variable {x : ConnId} {c : Channel} {g g' : Gateway}

theorem Rely.refl (g : Gateway) : Rely x c g g := ⟨Node.Grows.refl x _, rfl⟩

theorem Rely.trans {a b d : Gateway} (h : Rely x c a b) (k : Rely x c b d) : Rely x c a d :=
  ⟨h.grows.trans k.grows, k.ranged.trans h.ranged⟩

theorem Attaching.rely {env : Env} {S : Channel → Prop} (h : Attaching env x S g g')
    (hc : ¬ S c) : Rely x c g g' := ⟨h.grows, h.ranged c hc⟩

/-- A program whose segments attach, and that does not read the channel. -/
theorem keeps_rely {α : Type} {env : Env} {S : Channel → Prop} {q : Prog Gateway Exn α}
    (h : q.Keeps (fun _ => True) (Attaching env x S)) (hc : ¬ S c) :
    q.Keeps (fun _ => True) (Rely x c) := Prog.Keeps.mono (fun _ _ _ ha => ha.rely hc) h

theorem Rely.registered (h : Rely x c g g') (hx : (g.node.registry.byId.get? x).isSome = true) :
    (g'.node.registry.byId.get? x).isSome = true := by
  obtain ⟨conn, hconn⟩ := Option.isSome_iff_exists.mp hx
  obtain ⟨conn', hconn', -⟩ := h.grows conn hconn
  rw [hconn']
  rfl

theorem Replayed.grows {n n' : Node} {last : Int} {snap : List StreamEntry}
    (h : Replayed x c last snap n) (hg : n.Grows x n') : Replayed x c last snap n' := by
  obtain ⟨conn, hconn, hacc⟩ := h
  obtain ⟨conn', hconn', hg⟩ := hg conn hconn
  exact ⟨conn', hconn', fun e he hl => (hacc e he hl).grows hg⟩

theorem GapReported.grows {n n' : Node} (h : GapReported x c n) (hg : n.Grows x n') :
    GapReported x c n' := by
  obtain ⟨conn, hconn, frame, hmem, hgaps⟩ := h
  obtain ⟨conn', hconn', hg⟩ := hg conn hconn
  exact ⟨conn', hconn', frame, hg.wire.subset hmem, hgaps⟩

theorem gapReported_sendText {n : Node} {sessionId : String} {replayed : List (Channel × Nat)}
    {gaps : List Channel} (hx : (n.registry.byId.get? x).isSome = true) (hc : c ∈ gaps)
    (hok : (n.sendText x (.resumed sessionId replayed gaps)).1 = .ok ()) :
    GapReported x c (n.sendText x (.resumed sessionId replayed gaps)).2 := by
  obtain ⟨conn, hconn⟩ := Option.isSome_iff_exists.mp hx
  exact ⟨_, Node.wire_sendText hconn hok, _,
    List.mem_append_right _ (List.mem_singleton_self _), gaps, rfl, hc⟩

theorem Settled.stable {before : Nat} {last : Int} {gaps : List Channel}
    (h : Settled before x c last gaps g) (hr : Rely x c g g') :
    Settled before x c last gaps g' := by
  obtain ⟨snap, hsnap, hcase⟩ := h
  refine ⟨snap, by rw [snapshot, hr.ranged]; exact hsnap, ?_⟩
  rcases hcase with ⟨hgap, hc, hx⟩ | ⟨hgap, hrep⟩
  · exact Or.inl ⟨hgap, hc, hr.registered hx⟩
  · exact Or.inr ⟨hgap, hrep.grows hr.grows⟩

end Rely

section Postcondition

variable {env : Env} {p : Peer} {c : Channel} {before : Nat}

/-- Before the channel is read. -/
def Unread (before : Nat) (x : ConnId) (c : Channel) (g : Gateway) : Prop :=
  (g.node.registry.byId.get? x).isSome = true ∧ (g.redis.ranged c).length = before

theorem Unread.stable {x : ConnId} {g g' : Gateway} (h : Unread before x c g)
    (hr : Rely x c g g') : Unread before x c g' :=
  ⟨hr.registered h.1, by rw [hr.ranged]; exact h.2⟩

/-- After the XRANGE, the result is computed from the snapshot. -/
theorem wp_replayChannel {x : ConnId} (last : Int) {g : Gateway} (h : Unread before x c g) :
    (withRedis (replayChannel c last)).Wp (Rely x c) (fun r g => ∀ result, r = .ok result →
      (g.node.registry.byId.get? x).isSome = true ∧
        ∃ snap, snapshot before c g.redis = some snap ∧ result = replayOf snap last) g := by
  intro g₁ h₁
  have hu := h.stable h₁
  show (Prog.lift redis setRedis ((Prog.ofExcept (attempt (xrange c) g₁.redis).1).bind
    (fun entries => .ret (replayOf entries last)))).Wp _ _ (setRedis (attempt (xrange c) g₁.redis).2 g₁)
  -- whatever the next fault, a command that succeeds has read the stream
  have hread : ∀ entries, (attempt (xrange c) g₁.redis).1 = .ok entries →
      snapshot before c (attempt (xrange c) g₁.redis).2 = some entries := by
    intro entries he
    unfold attempt at he ⊢
    split at he
    · exact absurd he (by simp)
    · obtain rfl := Except.ok.inj he
      simp [snapshot, xrange, ← hu.2]
    · obtain rfl := Except.ok.inj he
      simp [snapshot, xrange, ← hu.2]
  cases he : (attempt (xrange c) g₁.redis).1 with
  | error e => exact fun g₂ _ result hr => absurd hr (by simp)
  | ok entries =>
    intro g₂ h₂ result hr
    obtain rfl := Except.ok.inj hr
    refine ⟨h₂.registered hu.1, entries, ?_, rfl⟩
    rw [snapshot, h₂.ranged]
    exact hread entries he

/-- The replay of the channel, its subscription and its listener. -/
theorem wp_reattach {last : Int} {snap : List StreamEntry} {g : Gateway}
    (hx : (g.node.registry.byId.get? p.connectionId).isSome = true)
    (hsnap : snapshot before c g.redis = some snap) (hgap : (replayOf snap last).gap = false)
    (gaps : List Channel) :
    (reattach env p c (replayOf snap last).messages).Wp (Rely p.connectionId c)
      (fun r g => ∀ a, r = .ok a → Settled before p.connectionId c last gaps g) g := by
  refine Prog.wp_bind Rely.refl (fun _ _ _ ha => absurd ha (by simp)) (Prog.wp_atomic ?_)
  intro g₁ g₂ h₁ h₂ b hb
  have hx₁ := h₁.registered hx
  obtain ⟨conn, hconn, hacc⟩ := Node.accepted_replayInto env c _ hb hx₁
  have hrep : Replayed p.connectionId c last snap
      (g₁.node.replayInto env p.connectionId c (replayOf snap last).messages).2 :=
    ⟨conn, hconn, fun e he hl => hacc e (mem_replayOf.mpr ⟨he, hl⟩)⟩
  have hset : Settled before p.connectionId c last gaps g₂ := by
    refine ⟨snap, ?_, Or.inr ⟨hgap, hrep.grows h₂.grows⟩⟩
    rw [snapshot, h₂.ranged]
    show snapshot before c g₁.redis = some snap
    rw [snapshot, h₁.ranged]
    exact hsnap
  have hkeeps : ((locally (Node.subscribe p.connectionId c)).bind fun _ =>
      onLocalSubscribe env c).Keeps (fun _ => True) (Rely p.connectionId c) :=
    keeps_rely (S := fun _ => False) (subscribed_attaching c) id
  exact (Prog.wp_of_keeps (fun _ _ hs hr => Settled.stable hs hr) hkeeps (Prog.Returns.any _)
    hset).mono (fun r s hs a ha => hs.1)

/-- **The loop of the RESUME branch deals with every own channel it names**, whatever the rest of
the system does meanwhile. -/
theorem wp_resumeChannels {last : Int} (hown : channelBelongsToTenant c p.tenantId = true) :
    ∀ (acks : List (Channel × Int)) (replayed : List (Channel × Nat)) (gaps : List Channel),
      (acks.map Prod.fst).Nodup → (c, last) ∈ acks → ∀ {g : Gateway},
      Unread before p.connectionId c g →
      (resumeChannels env p acks replayed gaps).Wp (Rely p.connectionId c)
        (fun r g => ∀ a, r = .ok a → Settled before p.connectionId c last a.2 g) g
  | (channel, lastAck) :: rest, replayed, gaps, hnd, hmem, g, hu => by
    rw [List.map_cons, List.nodup_cons] at hnd
    have herr : ∀ (e : Exn) (s : Gateway) (a : List (Channel × Nat) × List Channel),
        (Except.error e : Except Exn _) = .ok a → Settled before p.connectionId c last a.2 s :=
      fun _ _ _ ha => absurd ha (by simp)
    have hstable : ∀ s s', Unread before p.connectionId c s → Rely p.connectionId c s s' →
        Unread before p.connectionId c s' := fun _ _ hs hr => hs.stable hr
    rcases eq_or_ne channel c with rfl | hne
    · -- the channel itself: read it, then enqueue or report
      have hlast : lastAck = last := by
        rcases List.mem_cons.mp hmem with heq | hmem
        · exact (Prod.mk.inj heq).2.symm
        · exact absurd (List.mem_map_of_mem (f := Prod.fst) hmem) hnd.1
      subst hlast
      have hrest : ∀ (replayed : List (Channel × Nat)) (gaps' : List Channel) (s : Gateway),
          Settled before p.connectionId channel lastAck gaps' s →
          (resumeChannels env p rest replayed gaps').Wp (Rely p.connectionId channel)
            (fun r g => ∀ a, r = .ok a → Settled before p.connectionId channel lastAck a.2 g) s := by
        intro replayed gaps' s hs
        refine (Prog.wp_of_keeps (fun _ _ hs hr => Settled.stable hs hr)
          (keeps_rely (resumeChannels_attaching rest replayed gaps') hnd.1)
          (resumeChannels_returns rest replayed gaps') hs).mono (fun r s hs a ha => ?_)
        obtain ⟨⟨snap, hsnap, hcase⟩, hret⟩ := hs
        refine ⟨snap, hsnap, hcase.imp (fun h => ⟨h.1, ?_, h.2.2⟩) id⟩
        exact hret a ha h.2.1
      unfold resumeChannels
      rw [if_pos hown]
      refine Prog.wp_bind Rely.refl herr ((wp_replayChannel lastAck hu).mono ?_)
      rintro r s hs result rfl
      obtain ⟨hx, snap, hsnap, rfl⟩ := hs result rfl
      split
      · rename_i hgap
        have hset : Settled before p.connectionId channel lastAck (gaps ++ [channel]) s :=
          ⟨snap, hsnap, Or.inl ⟨hgap, by simp, hx⟩⟩
        refine Prog.wp_bind Rely.refl herr ((Prog.wp_of_keeps (fun _ _ hs hr => Settled.stable hs hr)
          (keeps_rely (S := fun _ => False) (sendText_attaching env _) id)
          (Prog.Returns.any _) hset).mono ?_)
        rintro r s hs a -
        exact hrest _ _ s hs.1
      · rename_i hgap
        refine Prog.wp_bind Rely.refl herr ((wp_reattach hx hsnap (by simpa using hgap) gaps).mono ?_)
        rintro r s hs a ha
        exact hrest _ _ s (hs a ha)
    · have hmem' : (c, last) ∈ rest := by
        rcases List.mem_cons.mp hmem with heq | hmem
        · exact absurd (Prod.mk.inj heq).1.symm hne
        · exact hmem
      have hrest : ∀ (replayed : List (Channel × Nat)) (gaps : List Channel) (s : Gateway),
          Unread before p.connectionId c s →
          (resumeChannels env p rest replayed gaps).Wp (Rely p.connectionId c)
            (fun r g => ∀ a, r = .ok a → Settled before p.connectionId c last a.2 g) s :=
        fun replayed gaps s hs => wp_resumeChannels hown rest replayed gaps hnd.2 hmem' hs
      unfold resumeChannels
      split
      · refine Prog.wp_bind Rely.refl herr ((Prog.wp_of_keeps hstable
          (keeps_rely (replayChannel_attaching env p.connectionId channel lastAck) (Ne.symm hne))
          (Prog.Returns.any _) hu).mono ?_)
        rintro r s hs result -
        split
        · refine Prog.wp_bind Rely.refl herr ((Prog.wp_of_keeps hstable
            (keeps_rely (S := fun _ => False) (sendText_attaching env _) id)
            (Prog.Returns.any _) hs.1).mono ?_)
          rintro r s hs a -
          exact hrest _ _ s hs.1
        · refine Prog.wp_bind Rely.refl herr ((Prog.wp_of_keeps hstable
            (keeps_rely (S := fun _ => False) (reattach_attaching channel _) id)
            (Prog.Returns.any _) hs.1).mono ?_)
          rintro r s hs a -
          exact hrest _ _ s hs.1
      · exact hrest _ _ g hu

/-- What a finished RESUME leaves behind for the channel. -/
def Resumed (before : Nat) (x : ConnId) (c : Channel) (last : Int) (g : Gateway) : Prop :=
  ∃ snap, snapshot before c g.redis = some snap ∧
    (GapReported x c g.node ∨ (replayOf snap last).gap = false ∧ Replayed x c last snap g.node)

theorem wp_resume {last : Int} (hown : channelBelongsToTenant c p.tenantId = true)
    {acks : List (Channel × Int)} (hnd : (acks.map Prod.fst).Nodup) (hmem : (c, last) ∈ acks)
    {g : Gateway} (hu : Unread before p.connectionId c g) :
    (resume env p acks).Wp (Rely p.connectionId c)
      (fun r g => ∀ a, r = .ok a → Resumed before p.connectionId c last g) g := by
  refine Prog.wp_bind Rely.refl (fun _ _ _ ha => absurd ha (by simp))
    ((wp_resumeChannels hown acks [] [] hnd hmem hu).mono ?_)
  rintro r s hs result hr
  have hset := hs result hr
  refine Prog.wp_bind Rely.refl (fun _ _ _ ha => absurd ha (by simp)) (Prog.wp_atomic ?_)
  intro g₁ g₂ h₁ h₂ b hb
  have hres : Resumed before p.connectionId c last g₂ := by
    obtain ⟨snap, hsnap, hcase⟩ := hset.stable h₁
    refine ⟨snap, by rw [snapshot, h₂.ranged]; exact hsnap, ?_⟩
    rcases hcase with ⟨-, hc, hx⟩ | ⟨hgap, hrep⟩
    · refine Or.inl (GapReported.grows ?_ h₂.grows)
      exact gapReported_sendText hx hc hb
    · refine Or.inr ⟨hgap, hrep.grows ?_⟩
      exact (Node.grows_sendText _ _).trans h₂.grows
  exact fun g₃ h₃ a _ => by
    obtain ⟨snap, hsnap, hcase⟩ := hres
    refine ⟨snap, by rw [snapshot, h₃.ranged]; exact hsnap, ?_⟩
    exact hcase.imp (fun h => h.grows h₃.grows) (fun h => ⟨h.1, h.2.grows h₃.grows⟩)

end Postcondition

/-! ## 4. What the rest of the system does meanwhile -/

/-- What happens next to one RESUME: its own segments, publishers, listeners (Redis is up, so none
of them fails), senders and PINGs. -/
def WorldAct.DuringResume : WorldAct → Prop
  | .task _ | .publish _ | .publisher _ | .reap _ | .sender _ _ | .ping _ _ _ | .tick _ => True
  | .listener _ _ a => a ≠ .fail
  | _ => False

/-- Nothing is appended, published or delivered, and no handler moves. -/
structure World.Quiet (env : Env) (n : NodeId) (x : ConnId) (c : Channel) (w w' : World) : Prop where
  tasks : w'.tasks = w.tasks
  publishers : ∀ p ∈ w.publishers, p ∈ w'.publishers
  grows : (w.nodes n).Grows x (w'.nodes n)
  subscribersOf : (w'.nodes n).registry.subscribersOf c = (w.nodes n).registry.subscribersOf c
  ranged : w'.redis.ranged c = w.redis.ranged c
  appended : w'.redis.appended c = w.redis.appended c
  published : w'.redis.published c = w.redis.published c
  wired : Wired (ownedBy (env.at n) w'.redis) (w'.nodes n)
  up : w'.redis.faults = []
  backlog : backlog (env.at n) c (w'.gateway n) = backlog (env.at n) c (w.gateway n)

/-- The listener of the channel takes `m` off its subscription and hands it to the subscribers. -/
structure World.Delivers (env : Env) (n : NodeId) (c : Channel) (m : MessageFrame) (w w' : World) :
    Prop where
  channel : m.channel = c
  tasks : w'.tasks = w.tasks
  publishers : w'.publishers = w.publishers
  node : w'.nodes n = (w.nodes n).deliverLocal (env.at n) c m
  ranged : w'.redis.ranged c = w.redis.ranged c
  appended : w'.redis.appended c = w.redis.appended c
  published : w'.redis.published c = w.redis.published c
  wired : Wired (ownedBy (env.at n) w'.redis) (w'.nodes n)
  up : w'.redis.faults = []
  backlog : backlog (env.at n) c (w.gateway n) = m :: backlog (env.at n) c (w'.gateway n)

/-- A subscriber that is ACTIVE and has room has the message enqueued. -/
theorem World.Delivers.accepted {env : Env} {n : NodeId} {c : Channel} {m : MessageFrame}
    {w w' : World} (hd : World.Delivers env n c m w w') {x : ConnId} {conn : Connection}
    (hsub : x ∈ (w.nodes n).registry.subscribersOf c)
    (hconn : (w.nodes n).registry.byId.get? x = some conn) (hactive : conn.state = .active)
    (hroom : conn.overLimit (env.at n) ((env.at n).wireSize (.message m)) = false) :
    ∃ conn', (w'.nodes n).registry.byId.get? x = some conn' ∧ conn'.Accepted c m.key := by
  refine ⟨conn.delivered (env.at n) c m, ?_, ?_⟩
  · have hget := Node.get_deliverLocal (env.at n) c m (w.nodes n) x
    rw [if_pos hsub, hconn] at hget
    rw [hd.node]
    exact hget
  · simp only [Connection.delivered, hactive, if_true, Connection.enqueue, hroom,
      Bool.false_eq_true, if_false]
    exact ⟨_, List.mem_append_right _ (List.mem_singleton_self _), m, rfl, hd.channel, rfl⟩

namespace World

section Cases

variable {env : Env} {n : NodeId} {x : ConnId} {c : Channel} {w : World}
  (hwired : Wired (ownedBy (env.at n) w.redis) (w.nodes n)) (hup : w.redis.faults = [])

include hwired hup

/-- A change of one connection's queue or socket, on any process. -/
theorem quiet_updateConn (m : NodeId) (y : ConnId) {f : Connection → Connection}
    (hid : ∀ conn, (f conn).ident = conn.ident) (hf : ∀ conn : Connection, conn.Grows (f conn)) :
    Quiet env n x c w (w.onNode m (Node.updateConn y f)) := by
  rcases eq_or_ne n m with rfl | hne
  · have hnode : (w.onNode n (Node.updateConn y f)).nodes n = (w.nodes n).updateConn y f := by
      simp [World.onNode]
    have hout : (w.nodes n).Outbound ((w.nodes n).updateConn y f) :=
      Node.outbound_updateConn _ _ (fun conn _ => hid conn)
    refine ⟨rfl, fun _ hp => hp, ?_, ?_, rfl, rfl, rfl, ?_, hup, ?_⟩
    · rw [hnode]; exact Node.grows_updateConn hf
    · rw [hnode]; exact hout.subscribersOf c
    · rw [hnode]; exact hwired.outbound hout
    · rw [World.gateway, hnode]
      rfl
  · have hnode : (w.onNode m (Node.updateConn y f)).nodes n = w.nodes n := by
      simp [World.onNode, Function.update_of_ne hne]
    refine ⟨rfl, fun _ hp => hp, ?_, ?_, rfl, rfl, rfl, ?_, hup, ?_⟩
    · rw [hnode]; exact Node.Grows.refl x _
    · rw [hnode]
    · rw [hnode]; exact hwired
    · rw [World.gateway, hnode]
      rfl

/-- A step of another process. -/
theorem quiet_foreign {m : NodeId} (hne : n ≠ m) {g : Gateway}
    (ho : ∀ t, ownedBy (env.at n) g.redis t = ownedBy (env.at n) w.redis t)
    (hframe : g.redis.appended = w.redis.appended ∧ g.redis.ranged = w.redis.ranged ∧
      g.redis.faults = w.redis.faults) (hpub : g.redis.published = w.redis.published) :
    Quiet env n x c w (w.put m g) := by
  have hnode : (w.put m g).nodes n = w.nodes n := by simp [World.put, Function.update_of_ne hne]
  refine ⟨rfl, fun _ hp => hp, ?_, ?_, congrFun hframe.2.1 c, congrFun hframe.1 c, congrFun hpub c,
    ?_, hframe.2.2.trans hup, ?_⟩
  · rw [hnode]; exact Node.Grows.refl x _
  · rw [hnode]
  · rw [hnode]; exact hwired.congr rfl rfl rfl ho
  · refine backlog_congr ?_ ho
    rw [World.gateway, hnode]
    rfl

omit hwired in
/-- A change of the process that is outbound, or leaves the registry alone. -/
theorem quiet_put {g : Gateway} (hg : (w.nodes n).Grows x g.node)
    (hsub : g.node.registry.subscribersOf c = (w.nodes n).registry.subscribersOf c)
    (hframe : g.redis.appended = w.redis.appended ∧ g.redis.ranged = w.redis.ranged ∧
      g.redis.faults = w.redis.faults) (hpub : g.redis.published = w.redis.published)
    (hw : Wired (ownedBy (env.at n) g.redis) g.node)
    (hb : Relay.backlog (env.at n) c g = Relay.backlog (env.at n) c (w.gateway n)) :
    Quiet env n x c w (w.put n g) := by
  have hnode : (w.put n g).nodes n = g.node := by simp [World.put]
  refine ⟨rfl, fun _ hp => hp, ?_, ?_, congrFun hframe.2.1 c, congrFun hframe.1 c, congrFun hpub c,
    ?_, hframe.2.2.trans hup, ?_⟩
  · rw [hnode]; exact hg
  · rw [hnode]; exact hsub
  · rw [hnode]; exact hw
  · simp only [World.gateway_put, if_true]
    exact hb

/-- A resumption of a listener of the process that does not fail. -/
theorem during_listener (d : Channel) {a : ListenerAct} (hfail : a ≠ .fail) :
    (∃ m, d = c ∧ a = .receive ∧
      Delivers env n c m w (w.put n (listenerStep (env.at n) d a (w.gateway n)))) ∨
    Quiet env n x c w (w.put n (listenerStep (env.at n) d a (w.gateway n))) := by
  have hframe := listenerStep_frame (env.at n) d a (w.gateway n)
  have hpub := published_listenerStep (env.at n) d a (w.gateway n)
  have hw' := wired_listenerStep (g := w.gateway n) hwired d a
  have hnode : (w.put n (listenerStep (env.at n) d a (w.gateway n))).nodes n
      = (listenerStep (env.at n) d a (w.gateway n)).node := by simp [World.put]
  rcases backlog_listenerStep (g := w.gateway n) hwired c d a with
    ⟨m, rfl, rfl, hmc, hb, hn⟩ | ⟨m, hne, hmc, hb, hn⟩ | ⟨hreg, hb⟩
  · refine Or.inl ⟨m, rfl, rfl, hmc, rfl, rfl, hnode.trans hn, congrFun hframe.2.1 d,
      congrFun hframe.1 d, congrFun hpub d, ?_, hframe.2.2.trans hup, ?_⟩
    · rw [hnode]; exact hw'
    · simp only [World.gateway_put, if_true]
      exact hb
  · refine Or.inr (quiet_put hup ?_ ?_ hframe hpub hw' hb)
    · rw [hn]; exact Node.grows_deliverLocal (env.at n) d m
    · rw [hn]; exact (Node.outbound_deliverLocal (env.at n) d m _).subscribersOf c
  · refine Or.inr (quiet_put hup ?_ ?_ hframe hpub hw' (hb.resolve_right (fun hf => hfail hf.1)))
    · exact Node.grows_of_get (by rw [hreg]; rfl)
    · rw [hreg]; rfl

/-- **One step next to a frame's handling, completely**: a segment of the handling, the next command
of a publisher, a delivery on the channel, or nothing that concerns the channel and the
connection. -/
theorem during_cases (a : WorldAct) (hdur : a.DuringResume) :
    (∃ i, a = .task i) ∨
    (∃ i ps call st ps', a = .publisher i ∧ w.publishers = ps ++ (call, st) :: ps' ∧
      w.publishers[i]? = some (call, st) ∧ w.step env a = { w with
        redis := (Stage.fire env call w.redis st).1
        publishers := ps ++ (call, (Stage.fire env call w.redis st).2) :: ps' }) ∨
    (∃ m, a = .listener n c .receive ∧ Delivers env n c m w (w.step env a)) ∨
    Quiet env n x c w (w.step env a) := by
  have hforeign : ∀ m, n ≠ m → (env.at m).settings.nodeId ≠ (env.at n).settings.nodeId :=
    fun m hne => Ne.symm hne
  have hsame : Quiet env n x c w w :=
    ⟨rfl, fun _ hp => hp, Node.Grows.refl x _, rfl, rfl, rfl, rfl, hwired, hup, rfl⟩
  cases a with
  | task i => exact Or.inl ⟨i, rfl⟩
  | publish call =>
    exact Or.inr (Or.inr (Or.inr { hsame with
      tasks := rfl, publishers := fun _ hp => List.mem_append_left _ hp }))
  | publisher i =>
    simp only [World.step, World.stepPublisher]
    rcases Publishers.step_cases env ⟨w.redis, w.publishers⟩ i with
      heq | ⟨ps, call, st, ps', hps, hi, -, ⟨rest, hf, -⟩ | ⟨fs, hfs, heq⟩⟩
    · rw [heq]; exact Or.inr (Or.inr (Or.inr hsame))
    · exact absurd (hf.symm.trans hup) (by simp)
    · have hredis : ({ w.redis with faults := fs } : Redis) = w.redis := by
        rcases hfs with hfs | ⟨hfs, rfl⟩
        · exact absurd (hfs.symm.trans hup) (by simp)
        · rw [← hfs]
      rw [heq]
      simp only [hredis]
      exact Or.inr (Or.inl ⟨i, ps, call, st, ps', rfl, hps, hi, rfl⟩)
  | listener m d b =>
    rcases eq_or_ne n m with rfl | hne
    · rcases during_listener (x := x) (c := c) hwired hup d hdur with ⟨m, rfl, rfl, hdel⟩ | hquiet
      · exact Or.inr (Or.inr (Or.inl ⟨m, rfl, hdel⟩))
      · exact Or.inr (Or.inr (Or.inr hquiet))
    · exact Or.inr (Or.inr (Or.inr (quiet_foreign hwired hup hne
        (ownedBy_listenerStep_foreign (hforeign m hne) d b)
        (listenerStep_frame (env.at m) d b (w.gateway m))
        (published_listenerStep (env.at m) d b (w.gateway m)))))
  | reap m =>
    refine Or.inr (Or.inr (Or.inr ?_))
    have hframe := reap_frame (env.at m) (w.gateway m)
    have hpub := published_reap (env.at m) (w.gateway m)
    rcases eq_or_ne n m with rfl | hne
    · refine quiet_put hup ?_ ?_ hframe hpub (wired_reap (g := w.gateway n) hwired)
        (backlog_reap (g := w.gateway n) hwired)
      · exact Node.grows_of_get (by rw [registry_reap]; rfl)
      · rw [registry_reap]; rfl
    · exact quiet_foreign hwired hup hne (ownedBy_reap_foreign (hforeign m hne)) hframe hpub
  | sender m y =>
    exact Or.inr (Or.inr (Or.inr (quiet_updateConn hwired hup m y (Connection.ident_senderStep env)
      (Connection.grows_senderStep env))))
  | ping m y serverTime =>
    exact Or.inr (Or.inr (Or.inr (quiet_updateConn hwired hup m y
      (World.ident_pingConn env serverTime) (Connection.grows_pingConn env serverTime))))
  | tick micros =>
    exact Or.inr (Or.inr (Or.inr { hsame with tasks := rfl, publishers := fun _ hp => hp }))
  | accept m s inputs => exact absurd hdur id
  | terminate m => exact absurd hdur id
  | sendFails m y => exact absurd hdur id
  | timeout m y => exact absurd hdur id

end Cases

end World

/-! ## 5. The invariant of a RESUME in progress -/

/-- The system when connection `x` of process `n` has just received a RESUME and the other
connections' handlers wait for their next frames. -/
def World.resuming (env : Env) (n : NodeId) (p : Peer) (fields : List (String × Json))
    (w : World) : World :=
  { w with tasks := [(n, (onFrame (env.at n) p (.obj fields)).bind (fun _ => .ret ()))] }

/-- Nothing of the channel has been evicted. -/
def Retaining (c : Channel) (w : World) (_ : WorldAct) : Prop :=
  (w.redis.stream c).map StreamEntry.key = (w.redis.appended c).map StreamEntry.key

/-- The connection is ACTIVE, and its queue has room for what the listener is about to deliver. -/
def Accepting (env : Env) (n : NodeId) (x : ConnId) (c : Channel) (w : World) : WorldAct → Prop
  | .listener m d .receive => m = n → d = c →
      ∀ msg ∈ (backlog (env.at n) c (w.gateway n)).head?,
        ∃ conn ∈ (w.nodes n).registry.byId.get? x, conn.state = .active ∧
          conn.overLimit (env.at n) ((env.at n).wireSize (.message msg)) = false
  | _ => True

/-- A message beyond the position that the RESUME has not seen: it has read the stream without a
gap, and the message was not in it. -/
def Unseen (before : Nat) (c : Channel) (last : Int) (r : Redis) (k : String × Int) : Prop :=
  ∃ snap ∈ snapshot before c r, (replayOf snap last).gap = false ∧ last < k.2 ∧
    k ∉ snap.map StreamEntry.key

/-- The listener of a channel is attached. -/
def Node.Listening (c : Channel) (n : Node) : Prop :=
  ∃ l ∈ n.listeners.get? c, l.phase = .listening

/-- A call about to PUBLISH a message the RESUME has not seen finds the listener attached. -/
def PublishesTo (before : Nat) (c : Channel) (last : Int) (r : Redis) (n : Node) :
    PublishCall × Stage → Prop
  | (call, .trimmed k) => call.channel = c → Unseen before c last r (call.messageId, k) →
      n.Listening c
  | _ => True

/-- A message the RESUME has not seen is only PUBLISHed when the process's listener is attached,
and only processed by it when the connection is subscribed. -/
def HandsOver (env : Env) (before : Nat) (n : NodeId) (x : ConnId) (c : Channel) (last : Int)
    (w : World) : WorldAct → Prop
  | .publisher i => ∀ p ∈ w.publishers[i]?, PublishesTo before c last w.redis (w.nodes n) p
  | .listener m d .receive => m = n → d = c →
      ∀ msg ∈ (backlog (env.at n) c (w.gateway n)).head?, Unseen before c last w.redis msg.key →
        x ∈ (w.nodes n).registry.subscribersOf c
  | _ => True

/-- Where a message can be that has been appended and is not in the snapshot: with its publisher,
in the backlog of the listener, or on the connection. -/
def Underway (env : Env) (n : NodeId) (x : ConnId) (c : Channel) (k : String × Int) (w : World) :
    Prop :=
  (∃ p ∈ w.publishers, p.1.channel = c ∧ p.1.messageId = k.1 ∧
    (p.2 = .stored k.2 ∨ p.2 = .trimmed k.2)) ∨
  (∃ m ∈ backlog (env.at n) c (w.gateway n), m.key = k) ∨
  ∃ conn, (w.nodes n).registry.byId.get? x = some conn ∧ conn.Accepted c k

/-- The invariant of a RESUME in progress. -/
structure Resuming (env : Env) (before : Nat) (n : NodeId) (x : ConnId) (c : Channel) (last : Int)
    (w : World) : Prop where
  task : ∃ prog, w.tasks = [(n, prog)] ∧
    prog.Keeps (fun _ => True) (Attaching (env.at n) x (fun _ => True)) ∧
    prog.Wp (Rely x c) (fun r g => ∀ a, r = .ok a → Resumed before x c last g) (w.gateway n)
  wired : Wired (ownedBy (env.at n) w.redis) (w.nodes n)
  up : w.redis.faults = []
  underway : ∀ e ∈ w.redis.appended c, Unseen before c last w.redis e.key →
    Underway env n x c e.key w

section Race

variable {env : Env} {before : Nat} {n : NodeId} {x : ConnId} {c : Channel} {last : Int}
  {w w' : World}

/-- A message stays underway when nothing is taken from its publishers, the backlog and the
connection. -/
theorem Underway.mono {k : String × Int} (h : Underway env n x c k w)
    (hp : ∀ p ∈ w.publishers, p ∈ w'.publishers)
    (hb : ∀ m ∈ backlog (env.at n) c (w.gateway n), m ∈ backlog (env.at n) c (w'.gateway n))
    (hg : (w.nodes n).Grows x (w'.nodes n)) : Underway env n x c k w' := by
  rcases h with ⟨p, hmem, hcase⟩ | ⟨m, hmem, hk⟩ | ⟨conn, hconn, hacc⟩
  · exact Or.inl ⟨p, hp p hmem, hcase⟩
  · exact Or.inr (Or.inl ⟨m, hb m hmem, hk⟩)
  · obtain ⟨conn', hconn', hg⟩ := hg conn hconn
    exact Or.inr (Or.inr ⟨conn', hconn', hacc.grows hg⟩)

/-- A step of the environment: the handler's program does not move, and relies on nothing that
changes. -/
theorem Resuming.environment (h : Resuming env before n x c last w) (htasks : w'.tasks = w.tasks)
    (hg : (w.nodes n).Grows x (w'.nodes n)) (hr : w'.redis.ranged c = w.redis.ranged c)
    (hwired : Wired (ownedBy (env.at n) w'.redis) (w'.nodes n)) (hup : w'.redis.faults = [])
    (hunder : ∀ e ∈ w'.redis.appended c, Unseen before c last w.redis e.key →
      Underway env n x c e.key w') : Resuming env before n x c last w' := by
  obtain ⟨prog, ht, hk, hwp⟩ := h.task
  have hrely : Rely x c (w.gateway n) (w'.gateway n) := ⟨hg, hr⟩
  have hwp' := Prog.Wp.stable (R := Rely x c) (fun _ _ _ h k => Rely.trans h k) hwp hrely
  refine ⟨⟨prog, htasks.trans ht, hk, hwp'⟩, hwired, hup, fun e he hu => hunder e he ?_⟩
  obtain ⟨snap, hs, hcase⟩ := hu
  refine ⟨snap, ?_, hcase⟩
  rw [snapshot, ← hr]
  exact hs

theorem Resuming.quiet (h : Resuming env before n x c last w)
    (hq : World.Quiet env n x c w w') : Resuming env before n x c last w' := by
  refine h.environment hq.tasks hq.grows hq.ranged hq.wired hq.up (fun e he hu => ?_)
  rw [hq.appended] at he
  exact (h.underway e he hu).mono hq.publishers (fun m hm => by rw [hq.backlog]; exact hm) hq.grows

/-- The only task in progress runs a segment, or does not move. -/
theorem stepTask_single {prog : Prog Gateway Exn Unit} (ht : w.tasks = [(n, prog)]) (i : Nat) :
    w.stepTask i = w ∨ ∃ f k, prog = .seg f k ∧
      w.stepTask i = { w.put n (f (w.gateway n)) with tasks := [(n, k (w.gateway n))] } := by
  unfold World.stepTask
  split
  · rename_i m f k hi
    rw [ht] at hi
    obtain ⟨hlt, heq⟩ := List.getElem?_eq_some_iff.mp hi
    obtain rfl : i = 0 := by simpa using hlt
    obtain ⟨rfl, rfl⟩ : n = m ∧ prog = .seg f k := by simpa using heq
    exact Or.inr ⟨f, k, rfl, by rw [ht]; rfl⟩
  · exact Or.inl rfl

/-- The process after the segment. -/
theorem gateway_segment (g : Gateway) (tasks : List (NodeId × Prog Gateway Exn Unit)) :
    ({ w.put n g with tasks := tasks } : World).gateway n = g := by
  simp [World.gateway, World.put]

/-- A segment of the RESUME itself. -/
theorem resuming_task (h : Resuming env before n x c last w) (hret : Retaining c w (.task 0))
    (i : Nat) : Resuming env before n x c last (w.stepTask i) := by
  obtain ⟨prog, ht, hk, hwp⟩ := h.task
  rcases stepTask_single ht i with heq | ⟨f, k, rfl, heq⟩
  · rw [heq]; exact h
  · rw [heq]
    obtain ⟨-, hatt, hk'⟩ := hk (w.gateway n) trivial
    have hgw := gateway_segment (w := w) (n := n) (f (w.gateway n)) [(n, k (w.gateway n))]
    have hnode : (w.put n (f (w.gateway n))).nodes n = (f (w.gateway n)).node := by
      simp [World.put]
    refine ⟨⟨k (w.gateway n), rfl, hk', ?_⟩, ?_, hatt.side.up h.up, fun e he hu => ?_⟩
    · rw [hgw]
      exact hwp _ (Rely.refl _)
    · show Wired _ ((w.put n (f (w.gateway n))).nodes n)
      rw [hnode]
      exact hatt.wired h.wired
    · have happ : (f (w.gateway n)).redis.appended c = w.redis.appended c :=
        congrFun hatt.side.appended c
      have he' : e ∈ w.redis.appended c := happ ▸ he
      obtain ⟨snap, hsnap, hgap, hlast, hnot⟩ := hu
      have hold : Unseen before c last w.redis e.key := by
        refine ⟨snap, ?_, hgap, hlast, hnot⟩
        -- a new snapshot is the whole stream, in which nothing is missing
        obtain ⟨l, hl, hstream⟩ : ∃ l, (f (w.gateway n)).redis.ranged c = w.redis.ranged c ++ l ∧
          ∀ s ∈ l, s = w.redis.stream c := hatt.side.ranged c
        by_cases hlen : before < (w.redis.ranged c).length
        · have hsame : snapshot before c (f (w.gateway n)).redis = snapshot before c w.redis := by
            rw [snapshot, hl, List.getElem?_append_left hlen]
            rfl
          rw [← hsame]
          exact hsnap
        · have hmem : snap ∈ l := by
            have hs : ((w.redis.ranged c) ++ l)[before]? = some snap := by
              rw [← hl]
              exact hsnap
            rw [List.getElem?_append_right (Nat.le_of_not_lt hlen)] at hs
            exact List.mem_of_getElem? hs
          rw [hstream snap hmem] at hnot
          refine absurd ?_ hnot
          rw [hret]
          exact List.mem_map_of_mem he'
      refine (h.underway e he' hold).mono (fun p hp => hp) (fun m hm => ?_) ?_
      · rw [hgw, hatt.backlog c h.wired]
        exact hm
      · show (w.nodes n).Grows x ((w.put n (f (w.gateway n))).nodes n)
        rw [hnode]
        exact hatt.grows

/-- What the next command of a publisher leaves alone. -/
theorem fire_frame (env : Env) (call : PublishCall) (r : Redis) (st : Stage) :
    (Stage.fire env call r st).1.ranged = r.ranged ∧
      (Stage.fire env call r st).1.faults = r.faults := by
  cases st with
  | stored k =>
    simp only [Stage.fire, xtrim]
    split <;> exact ⟨rfl, rfl⟩
  | _ => exact ⟨rfl, rfl⟩

theorem wired_fire {node : Node} {r : Redis} (h : Wired (ownedBy (env.at n) r) node)
    (call : PublishCall) (st : Stage) :
    Wired (ownedBy (env.at n) (Stage.fire env call r st).1) node := by
  by_cases hst : ∃ k, st = .trimmed k
  · obtain ⟨k, rfl⟩ := hst
    exact wired_publish h
  · exact h.congr rfl rfl rfl (fun t => ownedBy_fire t (fun k hk => hst ⟨k, hk⟩))

/-- What the next command of a publisher does to the topic and to the backlog. -/
theorem fire_cases {node : Node} {r : Redis} (hwired : Wired (ownedBy (env.at n) r) node)
    (call : PublishCall) (st : Stage) :
    (∃ k, st = .trimmed k ∧ call.channel = c ∧
      (Stage.fire env call r st).1.published c = r.published c ++ [Stage.envelope call k r] ∧
      backlog (env.at n) c ⟨(Stage.fire env call r st).1, node⟩ = backlog (env.at n) c ⟨r, node⟩ ++
        if ∃ l, node.listeners.get? c = some l ∧ l.phase = .listening
        then [Stage.envelope call k r] else []) ∨
    ((Stage.fire env call r st).1.published c = r.published c ∧
      backlog (env.at n) c ⟨(Stage.fire env call r st).1, node⟩ = backlog (env.at n) c ⟨r, node⟩) := by
  by_cases hst : ∃ k, st = .trimmed k
  · obtain ⟨k, rfl⟩ := hst
    have hb := backlog_publish c call.channel (Stage.envelope call k) hwired
    by_cases hc : call.channel = c
    · refine Or.inl ⟨k, rfl, hc, ?_, ?_⟩
      · simp [Stage.fire, publish, hc]
      · simp only [Stage.fire]
        rw [hb]
        simp only [hc, true_and]
    · refine Or.inr ⟨?_, ?_⟩
      · simp [Stage.fire, publish, Ne.symm hc]
      · simp only [Stage.fire]
        rw [hb, if_neg (fun h => hc h.1), List.append_nil]
  · refine Or.inr ⟨?_, backlog_congr rfl (fun t => ownedBy_fire t (fun k hk => hst ⟨k, hk⟩))⟩
    cases st with
    | stored k =>
      simp only [Stage.fire, xtrim]
      split <;> rfl
    | trimmed k => exact absurd ⟨k, rfl⟩ hst
    | _ => rfl

/-- The next command of one publisher. -/
theorem resuming_fire {ps ps' : List (PublishCall × Stage)} {call : PublishCall} {st : Stage}
    (h : Resuming env before n x c last w) (hps : w.publishers = ps ++ (call, st) :: ps')
    (hand : call.channel = c → ∀ k, st = .trimmed k →
      Unseen before c last w.redis (call.messageId, k) → (w.nodes n).Listening c) :
    Resuming env before n x c last { w with
      redis := (Stage.fire env call w.redis st).1
      publishers := ps ++ (call, (Stage.fire env call w.redis st).2) :: ps' } := by
  obtain ⟨hranged, hfaults⟩ := fire_frame env call w.redis st
  have hwired := wired_fire h.wired call st
  -- the backlog only gets longer
  have hback : ∀ m ∈ backlog (env.at n) c (w.gateway n),
      m ∈ backlog (env.at n) c ⟨(Stage.fire env call w.redis st).1, w.nodes n⟩ := by
    intro m hm
    rcases fire_cases (c := c) h.wired call st with ⟨k, -, -, -, hb⟩ | ⟨-, hb⟩
    · rw [hb]
      exact List.mem_append_left _ hm
    · rw [hb]
      exact hm
  -- a message underway stays so, unless it is the one whose publisher moves
  have hstay : ∀ k, Underway env n x c k w →
      (∃ j, (st = .stored j ∨ st = .trimmed j) ∧ call.channel = c ∧ (call.messageId, j) = k) ∨
      Underway env n x c k { w with
        redis := (Stage.fire env call w.redis st).1
        publishers := ps ++ (call, (Stage.fire env call w.redis st).2) :: ps' } := by
    intro k hk
    rcases hk with ⟨p, hp, hc, hid, hst⟩ | ⟨m, hm, hmk⟩ | hacc
    · rw [hps] at hp
      rcases List.mem_append.mp hp with hp | hp
      · exact Or.inr (Or.inl ⟨p, List.mem_append_left _ hp, hc, hid, hst⟩)
      · rcases List.mem_cons.mp hp with rfl | hp
        · exact Or.inl ⟨k.2, hst, hc, Prod.ext hid rfl⟩
        · exact Or.inr (Or.inl ⟨p, List.mem_append_right _ (List.mem_cons_of_mem _ hp), hc, hid, hst⟩)
    · exact Or.inr (Or.inr (Or.inl ⟨m, hback m hm, hmk⟩))
    · exact Or.inr (Or.inr (Or.inr hacc))
  have hother : (∀ j, st ≠ .stored j) → (∀ j, st ≠ .trimmed j) → ∀ k, Underway env n x c k w →
      Underway env n x c k { w with
        redis := (Stage.fire env call w.redis st).1
        publishers := ps ++ (call, (Stage.fire env call w.redis st).2) :: ps' } := by
    intro hstored htrimmed k hk
    rcases hstay k hk with ⟨j, hj | hj, -⟩ | hk
    · exact absurd hj (hstored j)
    · exact absurd hj (htrimmed j)
    · exact hk
  refine h.environment rfl (Node.Grows.refl x _) (congrFun hranged c) hwired
    (hfaults.trans h.up) (fun e he hu => ?_)
  cases st with
  | start => exact hother (by simp) (by simp) _ (h.underway e he hu)
  | numbered k =>
    have hnew : e ∈ w.redis.appended c ∨ call.channel = c ∧ e.key = (call.messageId, k) := by
      simp only [Stage.fire, xadd, Function.update_apply] at he
      split at he
      · rename_i hc
        rcases List.mem_append.mp he with he | he
        · exact Or.inl (hc ▸ he)
        · rw [List.mem_singleton.mp he]
          exact Or.inr ⟨hc.symm, rfl⟩
      · exact Or.inl he
    rcases hnew with hold | ⟨hc, hkey⟩
    · exact hother (by simp) (by simp) _ (h.underway e hold hu)
    · refine Or.inl ⟨(call, .stored k), by simp [Stage.fire], hc, ?_, Or.inl ?_⟩
      · rw [hkey]
      · rw [hkey]
  | stored k =>
    have happ : (Stage.fire env call w.redis (.stored k)).1.appended = w.redis.appended := by
      simp only [Stage.fire, xtrim]
      split <;> rfl
    rw [congrFun happ c] at he
    rcases hstay _ (h.underway e he hu) with ⟨j, hj | hj, hc, hkey⟩ | hk
    · obtain rfl := Stage.stored.inj hj
      exact Or.inl ⟨(call, .trimmed k), by simp [Stage.fire], hc, by rw [← hkey],
        Or.inr (by rw [← hkey])⟩
    · exact absurd hj (by simp)
    · exact hk
  | trimmed k =>
    rcases hstay _ (h.underway e he hu) with ⟨j, hj | hj, hc, hkey⟩ | hk
    · exact absurd hj (by simp)
    · -- the PUBLISH: the listener is there to receive it
      obtain rfl := Stage.trimmed.inj hj
      rw [← hkey] at hu
      obtain ⟨l, hl, hphase⟩ := hand hc k rfl hu
      refine Or.inr (Or.inl ⟨Stage.envelope call k w.redis, ?_, hkey⟩)
      have hb := backlog_publish c call.channel (Stage.envelope call k) h.wired
      rw [if_pos ⟨hc, l, hl, hphase⟩] at hb
      show _ ∈ backlog (env.at n) c ⟨(publish call.channel (Stage.envelope call k) w.redis).2, w.nodes n⟩
      rw [hb]
      exact List.mem_append_right _ (List.mem_singleton_self _)
    · exact hk
  | done k => exact hother (by simp) (by simp) _ (h.underway e he hu)
  | failed => exact hother (by simp) (by simp) _ (h.underway e he hu)

/-- A delivery on the channel. -/
theorem resuming_delivers (h : Resuming env before n x c last w) {m : MessageFrame}
    (hd : World.Delivers env n c m w w')
    (hacc : Accepting env n x c w (.listener n c .receive))
    (hand : HandsOver env before n x c last w (.listener n c .receive)) :
    Resuming env before n x c last w' := by
  have hg : (w.nodes n).Grows x (w'.nodes n) := by
    rw [hd.node]
    exact Node.grows_deliverLocal (env.at n) c m
  refine h.environment hd.tasks hg hd.ranged hd.wired hd.up (fun e he hu => ?_)
  rw [hd.appended] at he
  have hhead : m ∈ (backlog (env.at n) c (w.gateway n)).head? := by rw [hd.backlog]; rfl
  rcases h.underway e he hu with hp | ⟨m', hm', hkey⟩ | ⟨conn, hconn, hin⟩
  · rw [← hd.publishers] at hp
    exact Or.inl hp
  · rw [hd.backlog] at hm'
    rcases List.mem_cons.mp hm' with rfl | hm'
    · obtain ⟨conn, hconn, hactive, hroom⟩ := hacc rfl rfl m' hhead
      rw [← hkey] at hu
      have hsub := hand rfl rfl m' hhead hu
      obtain ⟨conn', hconn', hin⟩ := hd.accepted hsub hconn hactive hroom
      exact Or.inr (Or.inr ⟨conn', hconn', hkey ▸ hin⟩)
    · exact Or.inr (Or.inl ⟨m', hm', hkey⟩)
  · obtain ⟨conn', hconn', hgr⟩ := hg conn hconn
    exact Or.inr (Or.inr ⟨conn', hconn', hin.grows hgr⟩)

/-- **One step of the system while a RESUME is in progress.** -/
theorem resuming_step (w : World) (a : WorldAct) (hdur : a.DuringResume) (hret : Retaining c w a)
    (hacc : Accepting env n x c w a) (hand : HandsOver env before n x c last w a)
    (h : Resuming env before n x c last w) : Resuming env before n x c last (w.step env a) := by
  rcases World.during_cases (x := x) (c := c) h.wired h.up a hdur with
    ⟨i, rfl⟩ | ⟨i, ps, call, st, ps', rfl, hps, hi, heq⟩ | ⟨m, rfl, hd⟩ | hq
  · exact resuming_task h hret i
  · rw [heq]
    refine resuming_fire h hps (fun hc k hk hu => ?_)
    exact hand (call, .trimmed k) (by rw [← hk]; exact hi) hc hu
  · exact resuming_delivers h hd hacc hand
  · exact h.quiet hq

end Race

/-! ## 6. When nothing is lost -/

theorem resume_attaching {env : Env} {p : Peer} (acks : List (Channel × Int)) :
    (resume env p acks).Keeps (fun _ => True) (Attaching env p.connectionId (fun _ => True)) :=
  (Prog.Keeps.mono (fun _ _ _ h => h.mono (fun _ _ => trivial))
    (resumeChannels_attaching acks [] [])).bind fun _ =>
      (sendText_attaching env _).bind fun _ => Prog.keeps_ret true

/-- The invariant holds when the RESUME has just been received. -/
theorem resuming_start {env : Env} {w : World} {n : NodeId} {p : Peer}
    (hwired : Wired (ownedBy (env.at n) w.redis) (w.nodes n)) (hup : w.redis.faults = [])
    (hx : ((w.nodes n).registry.byId.get? p.connectionId).isSome = true)
    {fields : List (String × Json)} (hbranch : branchOf fields = .resume) {sessionId : String}
    {acks : Dict Channel Int} (hparse : parseResume (env.at n) fields = some (sessionId, acks))
    {c : Channel} {last : Int} (hc : acks.get? c = some last)
    (hown : channelBelongsToTenant c p.tenantId = true) :
    Resuming env (w.redis.ranged c).length n p.connectionId c last (w.resuming env n p fields) := by
  have hprog : onFrame (env.at n) p (.obj fields) = resume (env.at n) p acks.entries := by
    simp only [onFrame, hbranch, onResume, hparse]
  refine ⟨⟨_, rfl, ?_, ?_⟩, hwired, hup, fun e he hu => ?_⟩
  · rw [hprog]
    exact (resume_attaching acks.entries).bind fun _ => Prog.keeps_ret ()
  · rw [hprog]
    refine Prog.wp_bind Rely.refl (fun _ _ _ ha => absurd ha (by simp))
      ((wp_resume hown acks.nodup ((Dict.mem_entries acks c last).mpr hc) ⟨hx, rfl⟩).mono ?_)
    rintro r s hs a ha s' hr b -
    obtain ⟨snap, hsnap, hcase⟩ := hs a ha
    refine ⟨snap, by rw [snapshot, hr.ranged]; exact hsnap, ?_⟩
    exact hcase.imp (fun h => h.grows hr.grows) (fun h => ⟨h.1, h.2.grows hr.grows⟩)
  · -- the stream has not been read yet
    obtain ⟨snap, hsnap, -⟩ := hu
    have hnone : snapshot (w.redis.ranged c).length c w.redis = none := by simp [snapshot]
    exact absurd (hnone.symm.trans hsnap) (by simp)

/-- **RESUME loses nothing**, from any reachable state and under any interleaving with publishers,
listeners and senders, if every message appended after its XRANGE is PUBLISHed with the listener
attached and processed with the connection subscribed: when all is done, every message beyond the
client's position has been enqueued, or the gap has been reported. -/
theorem resume_loses_nothing (env : Env) (faults : List Bool) (trims : List Nat)
    (socketFaults : NodeId → List Bool) (earlier : List WorldAct) (w : World)
    (hw : w = runAll (World.step env) (World.start faults trims socketFaults) earlier)
    (hup : w.redis.faults = []) (n : NodeId) (x : ConnId) (conn : Connection)
    (hx : (w.nodes n).registry.byId.get? x = some conn)
    (fields : List (String × Json)) (hbranch : branchOf fields = .resume) (sessionId : String)
    (acks : Dict Channel Int) (hparse : parseResume (env.at n) fields = some (sessionId, acks))
    (c : Channel) (last : Int) (hc : acks.get? c = some last)
    (hown : channelBelongsToTenant c conn.tenantId = true)
    (acts : List WorldAct) (hacts : ∀ a ∈ acts, a.DuringResume)
    (hretain : Along (World.step env) (Retaining c) (w.resuming env n (peerOf x conn) fields) acts)
    (haccept : Along (World.step env) (Accepting env n x c)
      (w.resuming env n (peerOf x conn) fields) acts)
    (hhand : Along (World.step env) (HandsOver env (w.redis.ranged c).length n x c last)
      (w.resuming env n (peerOf x conn) fields) acts)
    (w' : World) (hw' : w' = runAll (World.step env) (w.resuming env n (peerOf x conn) fields) acts)
    (hreturned : ∀ t ∈ w'.tasks, t.2.returned = true)
    (hfinished : ∀ p ∈ w'.publishers, ¬ p.2.Running)
    (hprocessed : backlog (env.at n) c (w'.gateway n) = []) :
    GapReported x c (w'.nodes n) ∨ ∃ conn' ∈ (w'.nodes n).registry.byId.get? x,
      ∀ e ∈ w'.redis.appended c, last < e.sequence → conn'.Accepted c e.key := by
  have hstart : Resuming env (w.redis.ranged c).length n x c last
      (w.resuming env n (peerOf x conn) fields) :=
    resuming_start (p := peerOf x conn) (hw ▸ wired_run env faults trims socketFaults earlier n) hup
      (by rw [show (peerOf x conn).connectionId = x from rfl, hx]; rfl) hbranch hparse hc hown
  have hend : Resuming env (w.redis.ranged c).length n x c last w' := by
    rw [hw']
    exact runAll_invariant (fun w a hw (ha : ((a.DuringResume ∧ Retaining c w a) ∧
      Accepting env n x c w a) ∧ HandsOver env _ n x c last w a) =>
        resuming_step w a ha.1.1.1 ha.1.1.2 ha.1.2 ha.2 hw) acts _ hstart
      ((((along_of_forall acts hacts).and hretain).and haccept).and hhand)
  obtain ⟨prog, ht, -, hwp⟩ := hend.task
  obtain ⟨a, rfl⟩ := Prog.returned_iff.mp (hreturned (n, prog) (by rw [ht]; exact List.mem_cons_self))
  obtain ⟨snap, hsnap, hgap | ⟨hgap, conn', hconn', hreplayed⟩⟩ := hwp _ (Rely.refl _) a rfl
  · exact Or.inl hgap
  refine Or.inr ⟨conn', hconn', fun e he hlast => ?_⟩
  by_cases hmem : e.key ∈ snap.map StreamEntry.key
  · -- it was in the snapshot, and has been replayed
    obtain ⟨e', he', hkey⟩ := List.mem_map.mp hmem
    have hseq : e'.sequence = e.sequence := congrArg Prod.snd hkey
    exact hkey ▸ hreplayed e' he' (hseq ▸ hlast)
  · -- it was not, and nothing is underway any more
    rcases hend.underway e he ⟨snap, hsnap, hgap, hlast, hmem⟩ with
      ⟨p, hp, -, -, hst⟩ | ⟨m, hm, -⟩ | ⟨conn'', hconn'', hacc⟩
    · refine absurd ?_ (hfinished p hp)
      rcases hst with hst | hst <;> rw [hst] <;> trivial
    · rw [hprocessed] at hm
      exact absurd hm List.not_mem_nil
    · exact Option.some.inj (hconn''.symm.trans hconn') ▸ hacc

/-! ## 7. The window -/

section Decidable

variable (env : Env) (before : Nat) (n : NodeId) (x : ConnId) (c : Channel) (last : Int) (w : World)

instance : ∀ a : WorldAct, Decidable a.DuringResume
  | .task _ | .publish _ | .publisher _ | .reap _ | .sender _ _ | .ping _ _ _ | .tick _ => isTrue trivial
  | .listener _ _ a => inferInstanceAs (Decidable (a ≠ .fail))
  | .accept _ _ _ | .terminate _ | .sendFails _ _ | .timeout _ _ => isFalse id

instance (a : WorldAct) : Decidable (Retaining c w a) := inferInstanceAs (Decidable (_ = _))

instance (node : Node) : Decidable (node.Listening c) := inferInstanceAs (Decidable (∃ _ ∈ _, _))

instance (r : Redis) (k : String × Int) : Decidable (Unseen before c last r k) :=
  inferInstanceAs (Decidable (∃ _ ∈ _, _))

instance : ∀ a, Decidable (Accepting env n x c w a)
  | .listener _ _ .receive => inferInstanceAs (Decidable (_ → _ → ∀ _ ∈ _, ∃ _ ∈ _, _))
  | .listener _ _ .attach | .listener _ _ .fail | .listener _ _ .wake | .accept _ _ _ | .task _
  | .publish _ | .publisher _ | .reap _ | .terminate _ | .sender _ _ | .sendFails _ _
  | .ping _ _ _ | .timeout _ _ | .tick _ => isTrue trivial

instance (r : Redis) (node : Node) : ∀ p, Decidable (PublishesTo before c last r node p)
  | (_, .trimmed _) => inferInstanceAs (Decidable (_ → _ → _))
  | (_, .start) | (_, .numbered _) | (_, .stored _) | (_, .done _) | (_, .failed) => isTrue trivial

instance : ∀ a, Decidable (HandsOver env before n x c last w a)
  | .publisher _ => inferInstanceAs (Decidable (∀ _ ∈ _, _))
  | .listener _ _ .receive => inferInstanceAs (Decidable (_ → _ → ∀ _ ∈ _, _ → _))
  | .listener _ _ .attach | .listener _ _ .fail | .listener _ _ .wake | .accept _ _ _ | .task _
  | .publish _ | .reap _ | .terminate _ | .sender _ _ | .sendFails _ _
  | .ping _ _ _ | .timeout _ _ | .tick _ => isTrue trivial

end Decidable

/-- A client is connected and message 1 has been published. -/
def connectedRun : List WorldAct :=
  .accept "n" ⟨"x", "s", some (ClientFrame.connect "token" none).toJson, .ok "a"⟩ [] ::
    List.replicate 9 (.task 0) ++
  .publish ⟨"t-a:c", "m1", .null⟩ :: List.replicate 4 (.publisher 0)

def connectedWorld : World :=
  runAll (World.step (.plain {})) (World.start [] [] (fun _ => [])) connectedRun

/-- RESUME from position 1. -/
def resumeFields : List (String × Json) :=
  [("type", .str FrameType.resume.value), ("session_id", .str "s"),
    ("last_ack_by_channel", .obj [("t-a:c", .int 1)])]

/-- The client of `connectedWorld`. -/
def peerX : Peer := ⟨"x", "s", "a", none⟩

/-- It has sent RESUME. -/
def resumingWorld : World := connectedWorld.resuming (.plain {}) "n" peerX resumeFields

/-- Message 2 is published while the RESUME runs: after it has done `k` segments. -/
def publishedAfter (k : Nat) : List WorldAct :=
  List.replicate k (.task 0) ++ .publish ⟨"t-a:c", "m2", .null⟩ ::
    List.replicate 4 (.publisher 1) ++ List.replicate (10 - k) (.task 0) ++
    [.listener "n" "t-a:c" .attach]

/-- The same with the listener attached before the message is published, and run to the end. -/
def publishedAttached : List WorldAct :=
  List.replicate 10 (.task 0) ++ .listener "n" "t-a:c" .attach ::
    .publish ⟨"t-a:c", "m2", .null⟩ :: List.replicate 4 (.publisher 1) ++
    [.listener "n" "t-a:c" .receive]

theorem connectedWorld_peer : ((connectedWorld.nodes "n").registry.byId.get? "x").map
    Connection.peer = some peerX := by decide +kernel

/-- A message published between the XRANGE of a RESUME and the SUBSCRIBE of its listener is lost,
and no gap is reported. -/
theorem publish_during_resume_is_lost :
    let w := runAll (World.step (.plain {})) resumingWorld (publishedAfter 1)
    (∀ a ∈ publishedAfter 1, a.DuringResume) ∧
      Along (World.step (.plain {})) (Retaining "t-a:c") resumingWorld (publishedAfter 1) ∧
      Along (World.step (.plain {})) (Accepting (.plain {}) "n" "x" "t-a:c") resumingWorld
        (publishedAfter 1) ∧
      (∀ t ∈ w.tasks, t.2.returned = true) ∧ (∀ p ∈ w.publishers, ¬ p.2.Running) ∧
      (backlog ((Env.plain {}).at "n") "t-a:c" (w.gateway "n")).length = 0 ∧
      ((w.nodes "n").registry.byId.get? "x").map Connection.state = some .active ∧
      ¬ (GapReported "x" "t-a:c" (w.nodes "n") ∨
        ∃ conn ∈ (w.nodes "n").registry.byId.get? "x", ∀ e ∈ w.redis.appended "t-a:c",
          1 < e.sequence → conn.Accepted "t-a:c" e.key) := by
  decide +kernel

/-- The message published after the listener has attached arrives. -/
theorem publish_after_resume_arrives :
    let w := runAll (World.step (.plain {})) resumingWorld publishedAttached
    GapReported "x" "t-a:c" (w.nodes "n") ∨
      ∃ conn ∈ (w.nodes "n").registry.byId.get? "x", ∀ e ∈ w.redis.appended "t-a:c",
        1 < e.sequence → conn.Accepted "t-a:c" e.key := by
  intro w
  obtain ⟨conn, hconn, hpeer⟩ := Option.map_eq_some_iff.mp connectedWorld_peer
  have hid : conn.connectionId = "x" := congrArg Peer.connectionId hpeer
  have hp : peerOf "x" conn = peerX := by rw [← hpeer, peerOf, Connection.peer, hid]
  have hw : w = runAll (World.step (.plain {})) (connectedWorld.resuming (.plain {}) "n"
      (peerOf "x" conn) resumeFields) publishedAttached := by rw [hp]; rfl
  have htenant : conn.tenantId = "a" := congrArg Peer.tenantId hpeer
  refine resume_loses_nothing (.plain {}) [] [] (fun _ => []) connectedRun connectedWorld rfl
    (by decide +kernel) "n" "x" conn hconn resumeFields (by decide +kernel) "s"
    (Dict.ofList [("t-a:c", 1)]) rfl "t-a:c" 1 (by decide +kernel) (by rw [htenant]; decide +kernel)
    publishedAttached (by decide +kernel) ?_ ?_ ?_ w hw (by decide +kernel) (by decide +kernel)
    (List.length_eq_zero_iff.mp (by decide +kernel))
  · rw [hp]; decide +kernel
  · rw [hp]; decide +kernel
  · rw [hp]; decide +kernel

end Relay
