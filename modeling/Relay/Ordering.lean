/-
# The order of messages on a connection

`docs/ordering.md` promises a connected subscriber the messages of a channel in sequence order.
The number of a message is fixed by INCR, its place in the topic by PUBLISH two awaits later, and
two publishers may be between them at the same time.

What the gateway guarantees is the order of the PUBLISHes: on every connection that does not use
RESUME, what is written of a channel is a subsequence of what was published on it
(`Ordered`, for every interleaving of everything on all processes, also through listener failures,
re-subscriptions and slow-consumer terminations).  So the promise holds exactly as far as the
publishers keep their numbers and their PUBLISHes in the same order.
-/
import Mathlib
import Relay.Fanout
import Relay.Lib.Run

namespace Relay

open Gateway Redis

/-! ## 1. The messages of a channel on a connection -/

/-- The messages of a channel among frames. -/
def messagesOn (channel : Channel) (frames : List ServerFrame) : List MessageFrame :=
  (frames.filterMap ServerFrame.message?).filter (fun m => decide (m.channel = channel))

theorem messagesOn_append (channel : Channel) (l l' : List ServerFrame) :
    messagesOn channel (l ++ l') = messagesOn channel l ++ messagesOn channel l' := by
  simp [messagesOn]

theorem messagesOn_sublist {channel : Channel} {l l' : List ServerFrame} (h : l.Sublist l') :
    (messagesOn channel l).Sublist (messagesOn channel l') :=
  (h.filterMap _).filter _

theorem messagesOn_control {channel : Channel} {frame : ServerFrame} (h : frame.message? = none) :
    messagesOn channel [frame] = [] := by
  simp [messagesOn, h]

theorem messagesOn_message (channel : Channel) (m : MessageFrame) :
    messagesOn channel [.message m] = if m.channel = channel then [m] else [] := by
  simp only [messagesOn, List.filterMap_cons, List.filterMap_nil, ServerFrame.message?,
    List.filter_cons, List.filter_nil, decide_eq_true_eq]

namespace Connection

/-- Everything written, and everything that will be if the connection lives, in order. -/
def frames (conn : Connection) : List ServerFrame :=
  conn.wire ++ conn.pending.map QueuedMessage.payload

theorem frames_put (conn : Connection) (item : QueuedMessage) :
    (conn.put item).frames = conn.frames ++ [item.payload] := by
  simp [frames, pending, held, put]

theorem frames_release_sublist (conn : Connection) (item : QueuedMessage) :
    (conn.release item).frames.Sublist (conn.wire ++ item.payload :: conn.queue.map
      QueuedMessage.payload) := by
  unfold release
  split
  · exact List.Sublist.refl _
  · exact (List.Sublist.refl conn.wire).append (List.sublist_cons_self _ _)

theorem frames_waitForWindow_sublist (env : Env) (conn : Connection) (item : QueuedMessage) :
    (conn.waitForWindow env item).frames.Sublist (conn.wire ++ item.payload :: conn.queue.map
      QueuedMessage.payload) := by
  rcases waitForWindow_cases env conn item with ⟨-, h⟩ | ⟨-, h⟩
  · rw [h]; exact List.Sublist.refl _
  · rw [h]; exact frames_release_sublist conn item

/-- The sender writes in order, and at worst drops what it holds. -/
theorem frames_senderStep_sublist (env : Env) (conn : Connection) :
    ((conn.senderStep env).getD conn).frames.Sublist conn.frames := by
  cases h : conn.senderStep env with
  | none => exact List.Sublist.refl _
  | some conn' =>
    rw [Option.getD_some]
    rcases senderStep_cases h with
      ⟨item, rest, hs, hq, ⟨-, rfl⟩ | ⟨-, rfl⟩⟩ | ⟨item, hs, -, rfl⟩ | ⟨item, hs, rfl⟩
    · refine (frames_waitForWindow_sublist env _ item).trans ?_
      simp [frames, pending, held, hs, hq]
    · simp [frames, pending, held, hs, hq]
    · refine (frames_waitForWindow_sublist env conn item).trans ?_
      simp [frames, pending, held, hs]
    · unfold senderLoop
      split <;> simp [frames, pending, held, hs]

theorem frames_sendFails_sublist (conn : Connection) : conn.sendFails.frames.Sublist conn.frames := by
  unfold sendFails
  split
  · exact (List.Sublist.refl conn.wire).append
      ((List.sublist_append_right conn.held conn.queue).map QueuedMessage.payload)
  · exact List.Sublist.refl _

theorem frames_bookkeeping_sublist {f : Connection → Connection} (h : Bookkeeping f)
    (conn : Connection) : (f conn).frames.Sublist conn.frames := by
  rw [frames, pending, h.wire, h.queue, frames, pending]
  refine (List.Sublist.refl conn.wire).append (List.Sublist.map _ ?_)
  rcases h.held conn with hh | hh
  · rw [hh]
  · rw [hh]
    exact List.sublist_append_right _ _

theorem outgoing_delivered (env : Env) (channel c : Channel) (m : MessageFrame) (conn : Connection) :
    (messagesOn c (conn.delivered env channel m).frames).Sublist
      (messagesOn c conn.frames ++ if m.channel = c then [m] else []) := by
  unfold delivered
  split
  · split
    · rename_i conn' he
      rw [enqueue_normal he, frames_put, messagesOn_append, messagesOn_message]
    · exact List.sublist_append_left _ _
  · exact List.sublist_append_left _ _

end Connection

/-- The messages of channel `c` that connection `x` has written or has still to write. -/
def Node.outgoing (x : ConnId) (c : Channel) (n : Node) : List MessageFrame :=
  match n.registry.byId.get? x with
  | some conn => messagesOn c conn.frames
  | none => []

namespace Node

variable {x y : ConnId} {c : Channel} {n n' : Node}

theorem outgoing_some {conn : Connection} (h : n.registry.byId.get? x = some conn) :
    n.outgoing x c = messagesOn c conn.frames := by
  rw [outgoing, h]

theorem outgoing_congr (h : n'.registry.byId.get? x = n.registry.byId.get? x) :
    (n'.outgoing x c).Sublist (n.outgoing x c) := by
  rw [outgoing, h, outgoing]

theorem outgoing_map {f : Connection → Connection}
    (h : n'.registry.byId.get? x = (n.registry.byId.get? x).map f) {l : List MessageFrame}
    (hf : ∀ conn, (messagesOn c (f conn).frames).Sublist (messagesOn c conn.frames ++ l)) :
    (n'.outgoing x c).Sublist (n.outgoing x c ++ l) := by
  cases hx : n.registry.byId.get? x with
  | none =>
    rw [hx] at h
    rw [outgoing, h]
    exact List.nil_sublist _
  | some conn =>
    rw [hx] at h
    rw [outgoing_some h, outgoing_some hx]
    exact hf conn

/-- One connection is changed, and has nothing more to write than before. -/
theorem outgoing_modified {f : Connection → Connection}
    (h : n'.registry.byId.get? x =
      if x = y then (n.registry.byId.get? x).map f else n.registry.byId.get? x)
    (hf : ∀ conn, (messagesOn c (f conn).frames).Sublist (messagesOn c conn.frames)) :
    (n'.outgoing x c).Sublist (n.outgoing x c) := by
  split at h
  · have := outgoing_map (c := c) (l := []) h (fun conn => by rw [List.append_nil]; exact hf conn)
    rwa [List.append_nil] at this
  · exact outgoing_congr h

theorem outgoing_updateConn {f : Connection → Connection}
    (hf : ∀ conn, (f conn).frames.Sublist conn.frames) :
    ((n.updateConn y f).outgoing x c).Sublist (n.outgoing x c) :=
  outgoing_modified (Registry.get_updateConn n.registry y x f)
    (fun conn => messagesOn_sublist (hf conn))

theorem outgoing_write {frame : ServerFrame} (h : frame.message? = none) (n : Node) :
    ((n.write y frame).outgoing x c).Sublist (n.outgoing x c) := by
  unfold write
  split
  · refine outgoing_modified (Registry.get_updateConn n.registry y x _) (fun conn => ?_)
    change (messagesOn c (conn.wire ++ [frame] ++ conn.pending.map _)).Sublist _
    rw [messagesOn_append, messagesOn_append, messagesOn_control h, List.append_nil,
      Connection.frames, messagesOn_append]
  · exact List.Sublist.refl _

/-- A control frame written by the handler. -/
theorem outgoing_sendText {frame : ServerFrame} (h : frame.message? = none) :
    ((n.sendText y frame).2.outgoing x c).Sublist (n.outgoing x c) := by
  unfold sendText
  split
  · exact List.Sublist.refl _
  · exact outgoing_write h _
  · exact outgoing_write h _

theorem get_enqueue_of_ne (h : x ≠ y) (env : Env) (payload : ServerFrame) (priority : Priority)
    (channel : Option Channel) (sequence : Option Int) :
    (n.enqueue env y payload priority channel sequence).2.registry.byId.get? x
      = n.registry.byId.get? x := by
  unfold enqueue
  split
  · rfl
  · split
    · rw [updateConn, Registry.get_updateConn, if_neg h]
    · rfl

theorem get_replayInto_of_ne (h : x ≠ y) (env : Env) (channel : Channel) :
    ∀ (l : List StreamEntry) (n : Node),
      (n.replayInto env y channel l).2.registry.byId.get? x = n.registry.byId.get? x
  | [], _ => rfl
  | e :: rest, n => by
    have h1 := get_enqueue_of_ne (n := n) h env (.message (replayFrame channel e)) .normal
      (some channel) (some e.sequence)
    unfold replayInto
    split
    · rename_i n' he
      rw [he] at h1
      exact (get_replayInto_of_ne h env channel rest n').trans h1
    · rename_i err n' he
      rw [he] at h1
      exact h1

/-- A handler writes no message of its own accord, unless it replays. -/
theorem outgoing_effect {env : Env} {tenantId : String} {sc : Scope} {g g' : Gateway}
    (hres : y = x → sc.resumes = false) (e : Effect env y tenantId sc g g') :
    (g'.node.outgoing x c).Sublist (g.node.outgoing x c) := by
  cases e with
  | redis _ => exact List.Sublist.refl _
  | write frame h => exact outgoing_sendText h
  | bookkeeping f hf => exact outgoing_updateConn (Connection.frames_bookkeeping_sublist hf)
  | replay channel messages h _ _ =>
    have hne : x ≠ y := fun hx => absurd (hres hx.symm) (by simp [h])
    exact outgoing_congr (get_replayInto_of_ne hne env channel messages g.node)
  | subscribe channel _ _ =>
    exact outgoing_modified (Registry.get_subscribe _ y x channel) (fun _ => List.Sublist.refl _)
  | countUp channel _ _ => exact List.Sublist.refl _
  | startListener channel _ _ =>
    exact outgoing_congr (by simp only [setNode, registry_startListener])
  | unsubscribe channel _ =>
    exact outgoing_modified (Registry.get_unsubscribe _ y x channel) (fun _ => List.Sublist.refl _)
  | countDown channel _ =>
    exact outgoing_congr (by simp only [setNode, registry_countDown])
  | add sessionId userId _ =>
    have hget := Registry.get_add g.node.registry x (newConnection y sessionId tenantId userId)
    split at hget
    · rw [outgoing_some (n := (setNode (g.node.add (newConnection y sessionId tenantId userId))
        g).node) hget]
      exact List.nil_sublist _
    · have hsame : (setNode (g.node.add (newConnection y sessionId tenantId userId)) g
          ).node.registry.byId.get? x = g.node.registry.byId.get? x := hget
      exact outgoing_congr hsame
  | remove _ =>
    have hget := Registry.get_remove g.node.registry y x
    split at hget
    · rw [outgoing, setNode, remove, hget]
      exact List.nil_sublist _
    · have hsame : (setNode (g.node.remove y) g).node.registry.byId.get? x
          = g.node.registry.byId.get? x := hget
      exact outgoing_congr hsame
  | look => exact List.Sublist.refl _

theorem outgoing_deliverLocal (env : Env) (channel : Channel) (m : MessageFrame) :
    ((n.deliverLocal env channel m).outgoing x c).Sublist
      (n.outgoing x c ++ if m.channel = c then [m] else []) := by
  have hget := get_deliverLocal env channel m n x
  split at hget
  · exact outgoing_map hget (Connection.outgoing_delivered env channel c m)
  · exact (outgoing_congr hget).trans (List.sublist_append_left _ _)

end Node

/-! ## 2. A connection's messages follow the topic -/

/-- What was published on channel `c` is what the process's listener has processed (or missed)
followed by its backlog, and connection `x` writes a subsequence of the first part. -/
def Ordered (env : Env) (x : ConnId) (c : Channel) (g : Gateway) : Prop :=
  ∃ done, g.redis.published c = done ++ backlog env c g ∧ (g.node.outgoing x c).Sublist done

section Ordered

variable {env : Env} {x : ConnId} {c : Channel} {g g' : Gateway}

/-- A step that publishes nothing, enqueues nothing, and takes from a backlog at most all of it. -/
theorem Ordered.step (h : Ordered env x c g) (hp : g'.redis.published c = g.redis.published c)
    (hb : backlog env c g' = backlog env c g ∨ backlog env c g' = [])
    (ho : (g'.node.outgoing x c).Sublist (g.node.outgoing x c)) : Ordered env x c g' := by
  obtain ⟨done, hdone, hsub⟩ := h
  rcases hb with hb | hb
  · exact ⟨done, by rw [hp, hb, hdone], ho.trans hsub⟩
  · refine ⟨done ++ backlog env c g, by rw [hp, hb, hdone, List.append_nil], ?_⟩
    exact (ho.trans hsub).trans (List.sublist_append_left _ _)

theorem ordered_effect {y : ConnId} {tenantId : String} {sc : Scope}
    (hw : Wired (ownedBy env g.redis) g.node) (h : Ordered env x c g)
    (hres : y = x → sc.resumes = false) (e : Effect env y tenantId sc g g') :
    Ordered env x c g' :=
  h.step (congrFun e.channels.2.2.2 c) (backlog_effect hw e) (Node.outgoing_effect hres e)

/-- A resumption of a listener: the head of its backlog moves to the subscribers. -/
theorem ordered_listenerStep (hw : Wired (ownedBy env g.redis) g.node) (h : Ordered env x c g)
    (channel : Channel) (a : ListenerAct) : Ordered env x c (listenerStep env channel a g) := by
  have hpub := congrFun (published_listenerStep env channel a g) c
  rcases backlog_listenerStep hw c channel a with
    ⟨m, -, -, hmc, hb, hn⟩ | ⟨m, hne, hmc, hb, hn⟩ | ⟨hreg, hb⟩
  · obtain ⟨done, hdone, hsub⟩ := h
    refine ⟨done ++ [m], ?_, ?_⟩
    · rw [hpub, List.append_assoc, List.singleton_append, ← hb, hdone]
    · rw [hn]
      refine (Node.outgoing_deliverLocal env c m).trans ?_
      rw [if_pos hmc]
      exact hsub.append (List.Sublist.refl _)
  · refine h.step hpub (Or.inl hb) ?_
    rw [hn]
    refine (Node.outgoing_deliverLocal env channel m).trans ?_
    rw [if_neg (fun hcc => hne (hmc.symm.trans hcc)), List.append_nil]
  · exact h.step hpub (hb.imp id And.right) (Node.outgoing_congr (by rw [hreg]))

theorem ordered_publish {d : Channel} {frame : Redis → MessageFrame} {n : Node} {r : Redis}
    (hw : Wired (ownedBy env r) n) (h : Ordered env x c ⟨r, n⟩) :
    Ordered env x c ⟨(publish d frame r).2, n⟩ := by
  obtain ⟨done, hdone, hsub⟩ := h
  have hb := backlog_publish c d frame hw
  rcases eq_or_ne d c with hdc | hne
  · have hpub : (publish d frame r).2.published c = r.published c ++ [frame r] := by
      simp [publish, hdc]
    split at hb
    · -- the listener gets it
      refine ⟨done, ?_, hsub⟩
      rw [hpub, hb, hdone, List.append_assoc]
    · -- nobody of this process does
      rename_i hno
      have hnil : backlog env c ⟨r, n⟩ = [] :=
        backlog_silent hw (fun l hl hp => hno ⟨hdc, l, hl, hp⟩)
      rw [hnil, List.append_nil] at hdone
      refine ⟨done ++ [frame r], ?_, hsub.trans (List.sublist_append_left _ _)⟩
      rw [hpub, hb, hdone, hnil, List.append_nil, List.append_nil]
  · refine ⟨done, ?_, hsub⟩
    rw [hb, if_neg (fun hh => hne hh.1), List.append_nil]
    simp only [publish, Function.update_of_ne (Ne.symm hne)]
    exact hdone

end Ordered

/-! ## 3. In every run -/

/-- A call that is about to PUBLISH on channel `c` has a higher number than all before it. -/
def PublishesAbove (c : Channel) (r : Redis) : PublishCall × Stage → Prop
  | (call, .trimmed k) => call.channel = c → ∀ m ∈ r.published c, m.sequence < k
  | _ => True

instance (c : Channel) (r : Redis) : ∀ p, Decidable (PublishesAbove c r p)
  | (_, .trimmed _) => inferInstanceAs (Decidable (_ → ∀ _ ∈ _, _))
  | (_, .start) | (_, .numbered _) | (_, .stored _) | (_, .done _) | (_, .failed) => isTrue trivial

/-- The publishers' PUBLISHes on channel `c` come in the order of their numbers. -/
def PublishesInOrder (c : Channel) (w : World) : WorldAct → Prop
  | .publisher i => ∀ p ∈ w.publishers[i]?, PublishesAbove c w.redis p
  | _ => True

instance (c : Channel) (w : World) : ∀ a, Decidable (PublishesInOrder c w a)
  | .publisher _ => inferInstanceAs (Decidable (∀ _ ∈ _, _))
  | .accept _ _ _ | .task _ | .publish _ | .listener _ _ _ | .reap _ | .terminate _ | .sender _ _
  | .sendFails _ _ | .ping _ _ _ | .timeout _ _ | .tick _ => isTrue trivial

/-- The connection that becomes `x` on process `n` never sends RESUME. -/
def WorldAct.NoResume (n : NodeId) (x : ConnId) : WorldAct → Prop
  | .accept m s inputs => m = n → s.connectionId = x → ∀ input ∈ inputs, input.isResume = false
  | _ => True

instance (n : NodeId) (x : ConnId) : ∀ a : WorldAct, Decidable (a.NoResume n x)
  | .accept _ _ _ => inferInstanceAs (Decidable (_ → _ → ∀ _ ∈ _, _))
  | .task _ | .publish _ | .publisher _ | .listener _ _ _ | .reap _ | .terminate _ | .sender _ _
  | .sendFails _ _ | .ping _ _ _ | .timeout _ _ | .tick _ => isTrue trivial

/-- Such a step is allowed if the PUBLISHes are. -/
theorem WorldAct.NoResume.allowedBy {n : NodeId} {x : ConnId} {a : WorldAct} {w : World}
    {Allowed : Redis → PublishCall → Int → Prop} (h : a.NoResume n x)
    (hp : ∀ i, a = .publisher i → ∀ p ∈ w.publishers[i]?, ∀ k, p.2 = .trimmed k →
      Allowed w.redis p.1 k) :
    a.AllowedBy (fun m y => decide (¬ (m = n ∧ y = x))) Allowed w := by
  cases a with
  | accept m s inputs =>
    refine fun input hi hr => decide_eq_true (fun ⟨h1, h2⟩ => ?_)
    exact absurd (h h1 h2 input hi) (by simp [hr])
  | publisher i => exact hp i rfl
  | _ => trivial

/-- What is kept up at every process `m`, for connection `x` of process `n` and channel `c`: the
topic is in order, and so are the messages of the connection. -/
def InOrder (env : Env) (n : NodeId) (x : ConnId) (c : Channel) (m : NodeId) (g : Gateway) : Prop :=
  (g.redis.published c).Pairwise (fun a b => a.sequence < b.sequence) ∧
    (m = n → Ordered (env.at m) x c g)

theorem messagesOn_pingConn (env : Env) {c : Channel} (serverTime : Nat) (conn : Connection) :
    (messagesOn c (World.pingConn env serverTime conn).frames).Sublist
      (messagesOn c conn.frames) := by
  unfold World.pingConn
  split
  · split
    · rename_i conn' he
      rcases Connection.enqueue_cases he with ⟨-, hp⟩ | rfl
      · exact absurd hp (by simp)
      · rw [Connection.frames_put, messagesOn_append, messagesOn_control rfl, List.append_nil]
    · exact List.Sublist.refl _
  · exact List.Sublist.refl _

section Runs

variable {env : Env} {n : NodeId} {x : ConnId} {c : Channel}

/-- The topic is in order as long as every PUBLISH keeps it so. -/
theorem sorted_kept (env : Env) (resumes : NodeId → ConnId → Bool) (c : Channel) :
    Kept env resumes (fun r call k => PublishesAbove c r (call, .trimmed k))
      (fun _ g => (g.redis.published c).Pairwise (fun a b => a.sequence < b.sequence)) where
  effect _ h e := by rw [e.channels.2.2.2]; exact h
  redis h hp _ := by rw [hp]; exact h
  publish {m call k r node} _ hok h := by
    simp only [publish, Function.update_apply]
    split
    · rename_i hc
      refine List.pairwise_append.mpr ⟨hc ▸ h, List.pairwise_singleton _ _, ?_⟩
      rintro a ha b hb
      rw [List.mem_singleton.mp hb]
      exact hok hc.symm a (hc ▸ ha)
    · exact h
  listener channel a _ h := by rw [published_listenerStep]; exact h
  reap _ h := by rw [published_reap]; exact h
  terminating _ h := h
  sender _ h := h
  sendFails _ h := h
  ping _ _ h := h
  timeout _ h := h

/-- A change of queues, sockets and states by which no connection gets more to write. -/
theorem ordered_updateConn {r : Redis} {node : Node} (h : Ordered env x c ⟨r, node⟩) (y : ConnId)
    {f : Connection → Connection}
    (hf : ∀ conn, (messagesOn c (f conn).frames).Sublist (messagesOn c conn.frames)) :
    Ordered env x c ⟨r, node.updateConn y f⟩ :=
  h.step rfl (Or.inl rfl) (Node.outgoing_modified (Registry.get_updateConn _ y x f) hf)

/-- A connection that does not replay follows the topic, in whatever order that is. -/
theorem ordered_kept (env : Env) (n : NodeId) (x : ConnId) (c : Channel)
    (Allowed : Redis → PublishCall → Int → Prop) :
    Kept env (fun m y => decide (¬ (m = n ∧ y = x))) Allowed
      (fun m g => m = n → Ordered (env.at m) x c g) where
  effect hw h e := fun hm => ordered_effect hw (h hm) (fun hy => by simp [hm, hy]) e
  redis h hp ho := fun hm =>
    (h hm).step (congrFun hp c) (Or.inl (backlog_congr rfl ho)) (List.Sublist.refl _)
  publish hw _ h := fun hm => ordered_publish hw (h hm)
  listener channel a hw h := fun hm => ordered_listenerStep hw (h hm) channel a
  reap hw h := fun hm => (h hm).step (by rw [published_reap]) (Or.inl (backlog_reap hw))
    (Node.outgoing_congr (by rw [registry_reap]))
  terminating _ h := h
  sender y h := fun hm => ordered_updateConn (h hm) y
    (fun conn => messagesOn_sublist (conn.frames_senderStep_sublist env))
  sendFails y h := fun hm => ordered_updateConn (h hm) y
    (fun conn => messagesOn_sublist conn.frames_sendFails_sublist)
  ping y serverTime h := fun hm => ordered_updateConn (h hm) y (messagesOn_pingConn env serverTime)
  timeout y h := fun hm => ordered_updateConn (h hm) y (fun _ => List.Sublist.refl _)

theorem inOrder_kept (env : Env) (n : NodeId) (x : ConnId) (c : Channel) :
    Kept env (fun m y => decide (¬ (m = n ∧ y = x)))
      (fun r call k => PublishesAbove c r (call, .trimmed k)) (InOrder env n x c) :=
  (sorted_kept env _ c).and (ordered_kept env n x c _)

/-- What is written comes first among what is outgoing, and that follows the topic. -/
theorem Ordered.wire {g : Gateway} (h : Ordered env x c g) {conn : Connection}
    (hx : g.node.registry.byId.get? x = some conn) :
    (messagesOn c conn.wire).Sublist (g.redis.published c) := by
  obtain ⟨done, hdone, hsub⟩ := h
  have hwire : (messagesOn c conn.wire).Sublist (g.node.outgoing x c) := by
    rw [Node.outgoing_some hx, Connection.frames, messagesOn_append]
    exact List.sublist_append_left _ _
  rw [hdone]
  exact (hwire.trans hsub).trans (List.sublist_append_left _ _)

end Runs

/-- **Messages are written in sequence order**, on every connection that never sends RESUME and in
every run in which the PUBLISHes on the channel come in the order of their numbers. -/
theorem wire_in_order (env : Env) (faults : List Bool) (trims : List Nat)
    (socketFaults : NodeId → List Bool) (acts : List WorldAct) (n : NodeId) (x : ConnId)
    (c : Channel) (hres : ∀ a ∈ acts, a.NoResume n x)
    (hpub : Along (World.step env) (PublishesInOrder c) (World.start faults trims socketFaults) acts)
    (conn : Connection)
    (hx : ((runAll (World.step env) (World.start faults trims socketFaults) acts).nodes n
      ).registry.byId.get? x = some conn) :
    (messagesOn c conn.wire).Pairwise (fun a b => a.sequence < b.sequence) := by
  have hquiet : Along (World.step env) (fun _ a => a.NoResume n x)
      (World.start faults trims socketFaults) acts := along_of_forall acts hres
  have hacts : Along (World.step env) (fun w a => a.AllowedBy (fun m y => decide (¬ (m = n ∧ y = x)))
      (fun r call k => PublishesAbove c r (call, .trimmed k)) w)
      (World.start faults trims socketFaults) acts := by
    refine (hpub.and hquiet).mono (fun w a ha => ha.2.allowedBy ?_)
    rintro i rfl ⟨call, st⟩ hp k rfl
    exact ha.1 _ hp
  obtain ⟨-, htopic, hordered⟩ := (inOrder_kept env n x c).run (fun _ _ _ _ h => h) faults trims
    socketFaults (fun m => ⟨List.Pairwise.nil, fun _ => ⟨[], rfl, List.Sublist.refl _⟩⟩) acts hacts n
  exact htopic.sublist ((hordered rfl).wire hx)

/-! ## 4. Two publishers -/

/-- A connection subscribes to a channel and its process's listener attaches. -/
def subscribedRun : List WorldAct :=
  .accept "n" ⟨"x", "s", some (ClientFrame.connect "token" none).toJson, .ok "a"⟩
      [.json (ClientFrame.subscribe "t-a:c").toJson] ::
    List.replicate 14 (.task 0) ++ [.listener "n" "t-a:c" .attach]

/-- Two calls of `publish_message`, and what the process does with what they publish. -/
def twoPublishes (schedule : List Nat) : List WorldAct :=
  [.publish ⟨"t-a:c", "m1", .null⟩, .publish ⟨"t-a:c", "m2", .null⟩] ++
    schedule.map .publisher ++
    [.listener "n" "t-a:c" .receive, .listener "n" "t-a:c" .receive] ++
    List.replicate 4 (.sender "n" "x")

/-- The world after the two publishes. -/
def publishedTwice (schedule : List Nat) : World :=
  runAll (World.step (.plain {})) (World.start [] [] (fun _ => []))
    (subscribedRun ++ twoPublishes schedule)

theorem twoPublishes_noResume (schedule : List Nat) :
    ∀ a ∈ subscribedRun ++ twoPublishes schedule, a.NoResume "n" "x" := by
  intro a ha
  cases a with
  | accept m s inputs =>
    intro hm hs input hi
    simp only [subscribedRun, twoPublishes, List.cons_append, List.mem_cons, List.mem_append,
      List.mem_replicate, List.mem_map, List.not_mem_nil, WorldAct.accept.injEq, reduceCtorEq,
      and_false, or_false, exists_false] at ha
    obtain ⟨-, -, rfl⟩ := ha
    rw [List.mem_singleton.mp hi]
    rfl
  | _ => trivial

/-- The first publisher draws 1, the second draws 2 and overtakes it: a subscribed connection is
sent 2 before 1. -/
theorem overtaking_publish_reorders :
    (∀ a ∈ subscribedRun ++ twoPublishes [0, 1, 1, 1, 1, 0, 0, 0], a.NoResume "n" "x") ∧
      (((publishedTwice [0, 1, 1, 1, 1, 0, 0, 0]).nodes "n").registry.byId.get? "x").map
        (fun conn => (conn.state, decide ("t-a:c" ∈ conn.subscriptions),
          (messagesOn "t-a:c" conn.wire).map MessageFrame.sequence))
        = some (.active, true, [2, 1]) :=
  ⟨twoPublishes_noResume _, by decide +kernel⟩

/-- One publish after the other. -/
theorem wire_in_order_one_by_one :
    ∃ conn, ((publishedTwice [0, 0, 0, 0, 1, 1, 1, 1]).nodes "n").registry.byId.get? "x"
        = some conn ∧ (messagesOn "t-a:c" conn.wire).map MessageFrame.sequence = [1, 2] ∧
      (messagesOn "t-a:c" conn.wire).Pairwise (fun a b => a.sequence < b.sequence) := by
  have hconn : ∃ conn ∈ ((publishedTwice [0, 0, 0, 0, 1, 1, 1, 1]).nodes "n").registry.byId.get? "x",
      (messagesOn "t-a:c" conn.wire).map MessageFrame.sequence = [1, 2] := by decide +kernel
  obtain ⟨conn, hx, hw⟩ := hconn
  exact ⟨conn, hx, hw, wire_in_order (.plain {}) [] [] (fun _ => []) _ "n" "x" "t-a:c"
    (twoPublishes_noResume _) (by decide +kernel) conn hx⟩

end Relay
