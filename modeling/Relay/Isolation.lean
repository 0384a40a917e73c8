/-
# No message crosses tenants

What a connection is given comes from two places: the topic of a channel it is subscribed to, and
the stream of a channel it resumes.  Both check the namespace before they attach the connection, the
publish endpoint checks it before it publishes, and no channel lies in the namespaces of two tenants.
So every MESSAGE a connection is given was made by a publish of its own tenant.

`made` stands for the publishes of a run: `made channel messageId payload` says that one of them made
that message.  It does not depend on the moment, so a handler that holds the entries of an XRANGE
still holds made messages when it gets to enqueue them, whatever has happened meanwhile.
-/
import Mathlib
import Relay.Tenancy
import Relay.Fanout
import Relay.PublishApi

namespace Relay

open Gateway Redis

/-! ## 1. What Redis holds was made by a publish -/

section Made

variable {made : Channel → String → Json → Prop}

/-- The entries of the streams and the messages on their way to listeners were made. -/
structure MadeBy (made : Channel → String → Json → Prop) (r : Redis) : Prop where
  stream : ∀ c, ∀ e ∈ r.stream c, made c e.messageId e.payload
  pending : ∀ s ∈ r.subscribers, ∀ m ∈ s.pending, made m.channel m.messageId m.payload

theorem MadeBy.congr {r r' : Redis} (h : MadeBy made r) (hs : r'.stream = r.stream)
    (hp : r'.subscribers = r.subscribers) : MadeBy made r' :=
  ⟨hs ▸ h.stream, hp ▸ h.pending⟩

/-- Fewer messages on their way, to subscriptions new and old. -/
theorem MadeBy.fewer {r r' : Redis} (h : MadeBy made r) (hs : r'.stream = r.stream)
    (hp : ∀ s' ∈ r'.subscribers, ∀ m ∈ s'.pending, ∃ s ∈ r.subscribers, m ∈ s.pending) :
    MadeBy made r' := by
  refine ⟨hs ▸ h.stream, fun s' hs' m hm => ?_⟩
  obtain ⟨s, hmem, hm'⟩ := hp s' hs' m hm
  exact h.pending s hmem m hm'

theorem madeBy_listenerStep {env : Env} {channel : Channel} {a : ListenerAct} {g : Gateway}
    (h : MadeBy made g.redis) : MadeBy made (listenerStep env channel a g).redis := by
  refine h.fewer (listenerStep_channels env channel a g).2 ?_
  have hsame : ∀ s' ∈ g.redis.subscribers, ∀ m ∈ s'.pending,
      ∃ s ∈ g.redis.subscribers, m ∈ s.pending := fun s' hs' m hm => ⟨s', hs', hm⟩
  rcases listenerStep_cases env channel a g with he | ⟨l, -, -, -, he⟩
  · rw [he]; exact hsame
  rcases he with ⟨-, -, he⟩ | ⟨-, -, m, rest, -, he⟩ | ⟨-, -, he⟩ | ⟨-, -, he⟩ | ⟨-, -, he⟩
  · rw [he]
    intro s' hs' m hm
    rcases List.mem_append.mp hs' with hs' | hs'
    · exact hsame s' hs' m hm
    · rw [List.mem_singleton.mp hs'] at hm
      exact absurd hm List.not_mem_nil
  · rw [he]
    intro s' hs' m' hm'
    obtain ⟨s, hs, rfl⟩ := List.mem_map.mp hs'
    refine ⟨s, hs, ?_⟩
    split at hm'
    · exact List.mem_of_mem_tail hm'
    · exact hm'
  · rw [he]; exact hsame
  · rw [he]
    exact fun s' hs' m hm => hsame s' (List.mem_of_mem_filter hs') m hm
  · rw [he]; exact hsame

theorem madeBy_reap {env : Env} {g : Gateway} (h : MadeBy made g.redis) :
    MadeBy made (reap env g).redis := by
  refine h.fewer (reap_channels env g).2 ?_
  unfold reap
  split
  · exact fun s' hs' m hm => ⟨s', hs', hm⟩
  · exact fun s' hs' m hm => ⟨s', List.mem_of_mem_filter hs', hm⟩

/-- A command of a publish adds its own message, or none. -/
theorem madeBy_fire {env : Env} {call : PublishCall} {st : Stage} {r : Redis}
    (h : MadeBy made r) (hcall : made call.channel call.messageId call.payload) :
    MadeBy made (Stage.fire env call r st).1 := by
  cases st with
  | start => exact h.congr rfl rfl
  | numbered n =>
    refine ⟨fun c e he => ?_, h.pending⟩
    simp only [Stage.fire, xadd, Function.update_apply] at he
    split at he
    · rename_i hc
      rw [hc]
      rcases List.mem_append.mp (List.mem_of_mem_drop he) with he | he
      · exact h.stream _ e he
      · rw [List.mem_singleton.mp he]
        exact hcall
    · exact h.stream c e he
  | stored n =>
    simp only [Stage.fire, xtrim]
    split
    · exact h
    · refine ⟨fun c e he => ?_, h.pending⟩
      simp only [Function.update_apply] at he
      split at he
      · rename_i hc
        rw [hc]
        exact h.stream _ e (List.mem_of_mem_drop he)
      · exact h.stream c e he
  | trimmed n =>
    refine ⟨h.stream, fun s' hs' m hm => ?_⟩
    obtain ⟨s, hs, rfl⟩ := List.mem_map.mp hs'
    split at hm
    · rcases List.mem_append.mp hm with hm | hm
      · exact h.pending s hs m hm
      · rw [List.mem_singleton.mp hm]
        exact hcall
    · exact h.pending s hs m hm
  | done n => exact h
  | failed => exact h

end Made

/-! ## 2. What connections are given -/

section Served

variable {made : Channel → String → Json → Prop} {owner : ConnId → String} {n n' : Node}

/-- A connection of the tenant may be given the item: if it is a MESSAGE, it was made, on a channel
of the tenant. -/
def Admissible (made : Channel → String → Json → Prop) (tenantId : String) (item : QueuedMessage) :
    Prop :=
  ∀ m, item.payload = .message m → made m.channel m.messageId m.payload ∧
    channelBelongsToTenant m.channel tenantId = true

/-- Everything ever enqueued on a connection was admissible. -/
def Served (made : Channel → String → Json → Prop) (owner : ConnId → String) (n : Node) : Prop :=
  ∀ y conn, n.registry.byId.get? y = some conn → ∀ item ∈ conn.accepted,
    Admissible made (owner y) item

theorem Served.of_registry (h : Served made owner n) (hr : n'.registry = n.registry) :
    Served made owner n' := by
  unfold Served
  rw [hr]
  exact h

/-- One connection changes, and accepts only what is admissible. -/
theorem Served.modified (h : Served made owner n) {x : ConnId} {f : Connection → Connection}
    (hget : ∀ y, n'.registry.byId.get? y = if y = x then (n.registry.byId.get? y).map f
      else n.registry.byId.get? y)
    (hf : ∀ conn, n.registry.byId.get? x = some conn → ∀ item ∈ (f conn).accepted,
      item ∈ conn.accepted ∨ Admissible made (owner x) item) : Served made owner n' := by
  intro y conn' hy item hitem
  rw [hget] at hy
  split at hy
  · rename_i hyx
    subst hyx
    obtain ⟨conn, hconn, rfl⟩ := Option.map_eq_some_iff.mp hy
    rcases hf conn hconn item hitem with hold | hnew
    · exact h y conn hconn item hold
    · exact hnew
  · exact h y conn' hy item hitem

theorem Served.updateConn (h : Served made owner n) (x : ConnId) {f : Connection → Connection}
    (hf : ∀ conn, n.registry.byId.get? x = some conn → ∀ item ∈ (f conn).accepted,
      item ∈ conn.accepted ∨ Admissible made (owner x) item) :
    Served made owner (n.updateConn x f) :=
  h.modified (fun y => Registry.get_updateConn n.registry x y f) hf

/-- An update that accepts nothing. -/
theorem Served.update_same (h : Served made owner n) (x : ConnId) {f : Connection → Connection}
    (hf : ∀ conn, (f conn).accepted = conn.accepted) : Served made owner (n.updateConn x f) :=
  h.updateConn x (fun conn _ _ hitem => Or.inl (hf conn ▸ hitem))

theorem Served.sendText (h : Served made owner n) (x : ConnId) (frame : ServerFrame) :
    Served made owner (n.sendText x frame).2 := by
  have hwrite : ∀ n', Served made owner n' → Served made owner (n'.write x frame) := by
    intro n' h'
    unfold Node.write
    split
    · exact h'.update_same x (fun _ => rfl)
    · exact h'.of_registry rfl
  unfold Node.sendText
  split
  · exact h.of_registry rfl
  · exact hwrite _ (h.of_registry rfl)
  · exact hwrite _ h

theorem Served.enqueue (h : Served made owner n) (env : Env) (x : ConnId) {payload : ServerFrame}
    {priority : Priority} {channel : Option Channel} {sequence : Option Int}
    (hitem : Admissible made (owner x)
      ⟨payload, env.wireSize payload, priority, channel, sequence⟩) :
    Served made owner (n.enqueue env x payload priority channel sequence).2 := by
  unfold Node.enqueue
  cases hx : n.registry.byId.get? x with
  | none => exact h
  | some conn =>
    simp only
    cases he : conn.enqueue env payload priority channel sequence with
    | error e => exact h
    | ok conn' =>
      refine h.updateConn x (fun c hc item hi => ?_)
      obtain rfl := Option.some.inj (hx.symm.trans hc)
      rcases Connection.enqueue_cases he with ⟨rfl, -⟩ | rfl
      · exact Or.inl hi
      · rcases List.mem_append.mp hi with hi | hi
        · exact Or.inl hi
        · rw [List.mem_singleton.mp hi]
          exact Or.inr hitem

theorem Served.replayInto (env : Env) (x : ConnId) {channel : Channel}
    (own : channelBelongsToTenant channel (owner x) = true) :
    ∀ (l : List StreamEntry) {n : Node}, (∀ e ∈ l, made channel e.messageId e.payload) →
      Served made owner n → Served made owner (n.replayInto env x channel l).2
  | [], _, _, h => h
  | e :: rest, n, hl, h => by
    have hitem : Admissible made (owner x) ⟨.message (replayFrame channel e),
        env.wireSize (.message (replayFrame channel e)), .normal, some channel,
        some e.sequence⟩ := by
      intro m hm
      obtain rfl := ServerFrame.message.inj hm
      exact ⟨hl e List.mem_cons_self, own⟩
    have hstep := h.enqueue env x hitem
    unfold Node.replayInto
    split
    · rename_i n' he
      rw [he] at hstep
      exact Served.replayInto env x own rest (fun e' he' => hl e' (List.mem_cons_of_mem _ he')) hstep
    · rename_i err n' he
      rw [he] at hstep
      exact hstep

/-- `deliver_local` gives a message of its channel to subscribers of the channel. -/
theorem Served.deliverLocal (h : Served made owner n) (hn : Namespaced owner n) (env : Env)
    {m : MessageFrame} (hm : made m.channel m.messageId m.payload) :
    Served made owner (n.deliverLocal env m.channel m) := by
  intro y conn' hy item hitem
  rw [Node.get_deliverLocal] at hy
  split at hy
  · rename_i hsub
    obtain ⟨conn, hconn, rfl⟩ := Option.map_eq_some_iff.mp hy
    have hold := h y conn hconn
    unfold Connection.delivered at hitem
    split at hitem
    · split at hitem
      · rename_i c' he
        rw [Connection.enqueue_normal he] at hitem
        rcases List.mem_append.mp hitem with hi | hi
        · exact hold item hi
        · rw [List.mem_singleton.mp hi]
          intro m' hm'
          obtain rfl := ServerFrame.message.inj hm'
          exact ⟨hm, hn.index m.channel y hsub⟩
      · exact hold item hitem
    · exact hold item hitem
  · exact h y conn' hy item hitem

theorem served_effect {env : Env} {x : ConnId} {sc : Scope} {g g' : Gateway}
    (hsc : ∀ c e, sc.entries c e → made c e.messageId e.payload) (h : Served made owner g.node)
    (e : Effect env x (owner x) sc g g') : Served made owner g'.node := by
  cases e with
  | redis _ => exact h
  | write frame _ => exact h.sendText x frame
  | bookkeeping f hf => exact h.update_same x hf.accepted
  | replay channel messages _ own source =>
    exact Served.replayInto env x own messages (fun e he => hsc channel e (source e he)) h
  | subscribe channel _ _ =>
    exact h.modified (fun y => Registry.get_subscribe _ x y channel)
      (fun _ _ _ hitem => Or.inl hitem)
  | countUp channel _ _ => exact h.of_registry rfl
  | startListener channel _ _ => exact h.of_registry (Node.registry_startListener channel _)
  | unsubscribe channel _ =>
    exact h.modified (fun y => Registry.get_unsubscribe _ x y channel)
      (fun _ _ _ hitem => Or.inl hitem)
  | countDown channel _ => exact h.of_registry (Node.registry_countDown channel _)
  | add sessionId userId _ =>
    intro y conn hy item hitem
    simp only [setNode, Node.add, Registry.get_add] at hy
    split at hy
    · obtain rfl := Option.some.inj hy
      exact absurd hitem List.not_mem_nil
    · exact h y conn hy item hitem
  | remove _ =>
    intro y conn hy item hitem
    simp only [setNode, Node.remove, Registry.get_remove] at hy
    split at hy
    · exact absurd hy (by simp)
    · exact h y conn hy item hitem
  | look => exact h

end Served

/-! ## 3. In every reachable state -/

/-- The invariant of one process: its listeners are wired to their channels, its subscriptions stay
in the namespaces, and all it holds or gives was made. -/
structure Isolated (env : Env) (made : Channel → String → Json → Prop) (owner : ConnId → String)
    (n : NodeId) (g : Gateway) : Prop where
  wired : Wired (ownedBy (env.at n) g.redis) g.node
  namespaced : Namespaced owner g.node
  store : MadeBy made g.redis
  served : Served made owner g.node

/-- What a handler may do when replays hand on made messages only. -/
def Scope.replaying (made : Channel → String → Json → Prop) : Scope :=
  ⟨true, true, fun _ => True, fun c e => made c e.messageId e.payload⟩

/-- The segments of a process's handlers. -/
def IsolatedMove (env : Env) (made : Channel → String → Json → Prop) (owner : ConnId → String)
    (n : NodeId) (g g' : Gateway) : Prop :=
  ∃ x, Effect (env.at n) x (owner x) (.replaying made) g g'

/-- The calls of the step are made ones, and its tokens those of the owners of their ids. -/
def WorldAct.Makes (made : Channel → String → Json → Prop) (owner : ConnId → String) :
    WorldAct → Prop
  | .publish call => made call.channel call.messageId call.payload
  | a => a.OwnedBy owner

section World

variable {env : Env} {made : Channel → String → Json → Prop} {owner : ConnId → String}

theorem Isolated.effect {n : NodeId} {g g' : Gateway} (h : Isolated env made owner n g) {x : ConnId}
    (e : Effect (env.at n) x (owner x) (.replaying made) g g') : Isolated env made owner n g' where
  wired := wired_effect h.wired e
  namespaced := namespaced_effect h.namespaced e
  store := by
    refine h.store.congr e.channels.2.1 ?_
    cases e with
    | redis hs => exact hs.subscribers
    | _ => rfl
  served := served_effect (fun _ _ he => he) h.served e

/-- A change of Redis that this process makes no subscription by. -/
theorem Isolated.redis {n : NodeId} {r r' : Redis} {node : Node}
    (h : Isolated env made owner n ⟨r, node⟩) (hm : MadeBy made r')
    (ho : ∀ t, ownedBy (env.at n) r' t = ownedBy (env.at n) r t) :
    Isolated env made owner n ⟨r', node⟩ :=
  ⟨h.wired.congr rfl rfl rfl ho, h.namespaced, hm, h.served⟩

theorem Isolated.updateConn {n : NodeId} {r : Redis} {node : Node}
    (h : Isolated env made owner n ⟨r, node⟩) (x : ConnId) {f : Connection → Connection}
    (hid : ∀ conn, (f conn).ident = conn.ident)
    (hf : ∀ conn, ∀ item ∈ (f conn).accepted,
      item ∈ conn.accepted ∨ Admissible made (owner x) item) :
    Isolated env made owner n ⟨r, node.updateConn x f⟩ := by
  have ho := Node.outbound_updateConn node x (fun conn _ => hid conn)
  exact ⟨h.wired.outbound ho, h.namespaced.outbound ho, h.store,
    h.served.updateConn x (fun conn _ => hf conn)⟩

/-- A resumption of a listener: what it takes is a message of its own channel. -/
theorem Isolated.listener {n : NodeId} {g : Gateway} (h : Isolated env made owner n g)
    (channel : Channel) (a : ListenerAct) :
    Isolated env made owner n (listenerStep (env.at n) channel a g) := by
  refine ⟨wired_listenerStep h.wired channel a, registry_listenerStep h.namespaced,
    madeBy_listenerStep h.store, ?_⟩
  rcases listenerStep_cases (env.at n) channel a g with he | ⟨l, hl, -, -, he⟩
  · rw [he]; exact h.served
  rcases he with ⟨-, -, he⟩ | ⟨-, hp, m, rest, hpend, he⟩ | ⟨-, -, he⟩ | ⟨-, -, he⟩ | ⟨-, -, he⟩
  · rw [he]; exact h.served.of_registry rfl
  · rw [he]
    obtain ⟨s, hs, -, hch⟩ := h.wired.listening channel l hl hp
    rw [pendingOf_eq, hs, List.flatMap_singleton] at hpend
    have hm : m ∈ s.pending := by rw [hpend]; exact List.mem_cons_self
    have hsub : s ∈ g.redis.subscribers :=
      List.mem_of_mem_filter (p := fun s => decide (Owns (env.at n) l.task s))
        (by rw [ownedBy] at hs; rw [hs]; exact List.mem_singleton_self s)
    obtain rfl := hch m hm
    exact h.served.deliverLocal h.namespaced (env.at n) (h.store.pending s hsub m hm)
  · rw [he]; exact h.served.of_registry rfl
  · rw [he]; exact h.served.of_registry rfl
  · rw [he]; exact h.served.of_registry rfl

/-- The processes are isolated, and the calls in progress are made ones. -/
def World.Isolated (env : Env) (made : Channel → String → Json → Prop) (owner : ConnId → String)
    (w : World) : Prop :=
  w.Holds (Relay.Isolated env made owner) (IsolatedMove env made owner) ∧
    ∀ p ∈ w.publishers, made p.1.channel p.1.messageId p.1.payload

theorem isolated_publisher {w : World} (h : w.Isolated env made owner) (i : Nat) :
    (w.stepPublisher env i).Isolated env made owner := by
  rcases Publishers.step_cases env ⟨w.redis, w.publishers⟩ i with
    heq | ⟨before, call, st, after, hcalls, -, hr, ⟨rest, -, heq⟩ | ⟨fs, -, heq⟩⟩
  · simp only [World.stepPublisher, heq]
    exact h
  · simp only [World.stepPublisher, heq]
    refine ⟨⟨fun m => ((h.1.1 m).redis ?_ (fun _ => rfl)), h.1.2⟩, ?_⟩
    · exact (h.1.1 m).store.congr rfl rfl
    · have hmade := h.2
      simp only at hcalls
      rw [hcalls] at hmade
      simpa only [List.forall_mem_append, List.forall_mem_cons] using hmade
  · have hmade := h.2
    simp only at hcalls
    rw [hcalls] at hmade
    simp only [List.forall_mem_append, List.forall_mem_cons] at hmade
    simp only [World.stepPublisher, heq]
    refine ⟨⟨fun m => ?_, h.1.2⟩, ?_⟩
    · have hwired : Kept.Inv env (fun _ _ => True) m ⟨{ w.redis with faults := fs }, w.nodes m⟩ :=
        (kept_true env).inv_redis ⟨(h.1.1 m).wired, trivial⟩ rfl (fun _ => rfl)
      exact ⟨((kept_true env).inv_fire hwired (fun _ _ => trivial)).1, (h.1.1 m).namespaced,
        madeBy_fire ((h.1.1 m).store.congr rfl rfl) hmade.2.1, (h.1.1 m).served⟩
    · simpa only [List.forall_mem_append, List.forall_mem_cons] using hmade

/-- **One step of the system keeps every process isolated.** -/
theorem isolated_step (w : World) (a : WorldAct) (ha : a.Makes made owner)
    (h : w.Isolated env made owner) : (w.step env a).Isolated env made owner := by
  have hforeign : ∀ m m' : NodeId, m' ≠ m →
      (env.at m).settings.nodeId ≠ (env.at m').settings.nodeId := fun m m' hne => Ne.symm hne
  have hsame : ∀ conn : Connection, ∀ f : Connection → Connection,
      (f conn).accepted = conn.accepted → ∀ x : ConnId, ∀ item ∈ (f conn).accepted,
        item ∈ conn.accepted ∨ Admissible made (owner x) item :=
    fun conn f hf x item hitem => Or.inl (hf ▸ hitem)
  cases a with
  | accept n s inputs =>
    refine ⟨h.1.spawn (Prog.Keeps.mono (fun g g' _ he => ⟨s.connectionId, he⟩) ?_), h.2⟩
    exact handleConnection_keeps (fun g g' hg he => hg.effect he) rfl ha (fun _ _ => trivial)
      (fun g channel hg e he => hg.store.stream channel e he) (fun _ _ _ _ _ _ => trivial)
      (fun _ _ _ => rfl) (fun _ _ _ _ => trivial)
  | task i =>
    refine ⟨h.1.task (fun m m' g g' node hne hmove hI => ?_) i, ?_⟩
    · obtain ⟨y, he⟩ := hmove
      cases he with
      | redis hs =>
        exact hI.redis (hI.store.congr hs.stream hs.subscribers)
          (fun t => by simp only [ownedBy, setRedis, hs.subscribers])
      | _ => exact hI
    · simp only [World.step, World.stepTask]
      split <;> exact h.2
  | publish call =>
    refine ⟨h.1, fun p hp => ?_⟩
    rcases List.mem_append.mp hp with hp | hp
    · exact h.2 p hp
    · rw [List.mem_singleton.mp hp]
      exact ha
  | publisher i => exact isolated_publisher h i
  | listener m channel b =>
    refine ⟨h.1.put ((h.1.1 m).listener channel b) (fun m' hne hI => hI.redis ?_ ?_), h.2⟩
    · exact madeBy_listenerStep (h.1.1 m).store
    · exact ownedBy_listenerStep_foreign (hforeign m m' hne) channel b
  | reap m =>
    refine ⟨h.1.put ⟨wired_reap (h.1.1 m).wired, ?_, madeBy_reap (h.1.1 m).store, ?_⟩
      (fun m' hne hI => hI.redis (madeBy_reap (h.1.1 m).store)
        (ownedBy_reap_foreign (hforeign m m' hne))), h.2⟩
    · exact (h.1.1 m).namespaced.of_registry (registry_reap _ _)
    · exact (h.1.1 m).served.of_registry (registry_reap _ _)
  | terminate m =>
    simp only [World.step, World.stepTerminate]
    split
    · exact h
    · rename_i x rest _
      have hI := h.1.1 m
      refine ⟨World.Holds.spawn (w := w.onNode m (fun node => { node with terminating := rest }))
        (h.1.onNode ⟨hI.wired.congr rfl rfl rfl (fun _ => rfl), hI.namespaced.of_registry rfl,
          hI.store, hI.served.of_registry rfl⟩)
        (Prog.Keeps.mono (fun g g' _ he => ⟨x, he⟩) ?_), h.2⟩
      exact terminateSlowConsumer_keeps (fun g g' hg he => hg.effect he)
  | sender m x =>
    exact ⟨h.1.onNode ((h.1.1 m).updateConn x (Connection.ident_senderStep env)
      (fun conn => hsame conn _ (Connection.accepted_senderStep env conn) x)), h.2⟩
  | sendFails m x =>
    exact ⟨h.1.onNode ((h.1.1 m).updateConn x Connection.ident_sendFails
      (fun conn => hsame conn _ (Connection.accepted_sendFails conn) x)), h.2⟩
  | ping m x serverTime =>
    refine ⟨h.1.onNode ((h.1.1 m).updateConn x (World.ident_pingConn env serverTime)
      (fun conn item hitem => ?_)), h.2⟩
    unfold World.pingConn at hitem
    split at hitem
    · split at hitem
      · rename_i conn' he
        rcases Connection.enqueue_cases he with ⟨rfl, -⟩ | rfl
        · exact Or.inl hitem
        · rcases List.mem_append.mp hitem with hi | hi
          · exact Or.inl hi
          · rw [List.mem_singleton.mp hi]
            exact Or.inr (fun _ hm => by cases hm)
      · exact Or.inl hitem
    · exact Or.inl hitem
  | timeout m x =>
    exact ⟨h.1.onNode ((h.1.1 m).updateConn x (fun _ => rfl)
      (fun _ _ hitem => Or.inl hitem)), h.2⟩
  | tick micros =>
    exact ⟨⟨fun m => (h.1.1 m).redis ((h.1.1 m).store.congr rfl rfl) (fun _ => rfl), h.1.2⟩, h.2⟩

end World

/-- Calls of `publish_message` come from the endpoint: from a request that passed its checks. -/
def WorldAct.Requested (env : Env) (authenticate : String → Except String String) :
    WorldAct → Prop
  | .publish call => ∃ req tenantId, checkPublish env authenticate req = .ok tenantId ∧
      req.call = call
  | _ => True

/-- **Tenant isolation of delivery.**  In every reachable state of every process, whatever handshakes,
frames, publishes, listeners and failures have led to it: a connection is subscribed to channels of
its tenant only, and every MESSAGE ever enqueued on it, live or replayed, was made by a publish
request authenticated as that tenant. -/
theorem delivery_isolated (env : Env) (authenticate : String → Except String String)
    (huuid : ∀ token t, authenticate token = .ok t → IsUuid t) (owner : ConnId → String)
    (howner : ∀ x, IsUuid (owner x)) (faults : List Bool) (trims : List Nat)
    (socketFaults : NodeId → List Bool) (acts : List WorldAct)
    (hown : ∀ a ∈ acts, a.OwnedBy owner) (hreq : ∀ a ∈ acts, a.Requested env authenticate)
    (n : NodeId) (x : ConnId) (conn : Connection)
    (hconn : ((runAll (World.step env) (World.start faults trims socketFaults) acts).nodes n
      ).registry.byId.get? x = some conn) :
    (∀ channel ∈ conn.subscriptions, channelBelongsToTenant channel conn.tenantId = true) ∧
      ∀ item ∈ conn.accepted, ∀ m, item.payload = .message m →
        ∃ req, .publish req.call ∈ acts ∧ checkPublish env authenticate req = .ok conn.tenantId ∧
          req.channel = m.channel ∧ req.messageId = m.messageId ∧ req.payload = m.payload := by
  -- the publishes of the run
  let made : Channel → String → Json → Prop := fun channel messageId payload =>
    ∃ req tenantId, .publish req.call ∈ acts ∧ checkPublish env authenticate req = .ok tenantId ∧
      req.channel = channel ∧ req.messageId = messageId ∧ req.payload = payload
  have hmakes : ∀ a ∈ acts, a.Makes made owner := by
    intro a ha
    cases a with
    | publish call =>
      obtain ⟨req, tenantId, hcheck, rfl⟩ := hreq _ ha
      exact ⟨req, tenantId, ha, hcheck, rfl, rfl, rfl⟩
    | _ => exact hown _ ha
  have hstart : (World.start faults trims socketFaults).Isolated env made owner := by
    refine ⟨⟨fun m => ⟨?_, ?_, ?_, ?_⟩, fun t ht => absurd ht List.not_mem_nil⟩,
      fun p hp => absurd hp List.not_mem_nil⟩
    · constructor <;> intros <;> first | rfl | contradiction
    · exact ⟨fun y conn hy => absurd hy (by simp [World.gateway, World.start]),
        fun channel y hy => absurd hy (OSet.not_mem_empty y)⟩
    · exact ⟨fun c e he => absurd he List.not_mem_nil, fun s hs => absurd hs List.not_mem_nil⟩
    · exact fun y conn hy => absurd hy (by simp [World.gateway, World.start])
  have hrun := (runAll_invariant (fun w a hw (ha : a.Makes made owner) => isolated_step w a ha hw)
    acts _ hstart (along_of_forall acts hmakes)).1.1 n
  obtain ⟨htenant, hsubs⟩ := hrun.namespaced.table x conn hconn
  refine ⟨fun channel hch => htenant ▸ hsubs channel hch, fun item hitem m hm => ?_⟩
  obtain ⟨⟨req, tenantId, hmem, hcheck, hc, hid, hpay⟩, hbelongs⟩ :=
    hrun.served x conn hconn item hitem m hm
  -- the channel is in the namespaces of both tenants, so they are the same
  obtain ⟨hauth, -, hnamespace, -⟩ := checkPublish_ok env authenticate hcheck
  obtain ⟨token, htoken⟩ := authHttp_ok hauth
  have hsame : tenantId = conn.tenantId := by
    rw [htenant]
    exact belongs_unique (huuid token tenantId htoken) (howner x) (hc ▸ hnamespace) hbelongs
  exact ⟨req, hmem, hsame ▸ hcheck, hc, hid, hpay⟩

/-! ## 4. Two tenants -/

/-- Tenant A publishes to its channel. -/
def requestA : PublishRequest := ⟨some "Bearer a", none, channelA, .null, "m1"⟩

/-- The tokens of the two tenants. -/
def tokensAB (token : String) : Except String String :=
  if token = "a" then .ok tenantA else .ok tenantB

/-- Both tenants are connected, A is subscribed, and a message of A's goes out. -/
def deliversToA : List WorldAct :=
  twoTenantsRun ++ [.listener "n" channelA .attach, .publish requestA.call] ++
    List.replicate 4 (.publisher 0) ++ [.listener "n" channelA .receive]

/-- The message that reaches A's connection was made by A's own request. -/
theorem delivered_to_own_tenant :
    ∃ conn ∈ ((runAll (World.step (.plain {})) (World.start [] [] (fun _ => [])) deliversToA
      ).nodes "n").registry.byId.get? "conn-a",
      ∃ item ∈ conn.accepted, ∃ m, item.payload = .message m ∧
        ∃ req, .publish req.call ∈ deliversToA ∧
          checkPublish (.plain {}) tokensAB req = .ok conn.tenantId ∧ req.messageId = m.messageId := by
  have hitem : ∃ conn ∈ ((runAll (World.step (.plain {})) (World.start [] [] (fun _ => []))
      deliversToA).nodes "n").registry.byId.get? "conn-a",
      ∃ item ∈ conn.accepted, item.payload.message?.isSome = true := by decide +kernel
  obtain ⟨conn, hconn, item, hmem, hsome⟩ := hitem
  have hmsg : ∃ m, item.payload = .message m := by
    cases hp : item.payload with
    | message m => exact ⟨m, rfl⟩
    | _ => rw [hp] at hsome; nomatch hsome
  obtain ⟨m, hm⟩ := hmsg
  have hown : ∀ a ∈ deliversToA, a.OwnedBy ownerAB := by
    intro a ha
    simp only [deliversToA, List.mem_append, List.mem_cons, List.not_mem_nil, or_false,
      List.mem_replicate] at ha
    rcases ha with ((ha | rfl | rfl) | ⟨-, rfl⟩) | rfl
    · exact twoTenantsRun_owned a ha
    all_goals trivial
  have hreq : ∀ a ∈ deliversToA, a.Requested (.plain {}) tokensAB := by
    intro a ha
    cases a with
    | publish call =>
      have hcall : call = requestA.call := by simpa [deliversToA, twoTenantsRun] using ha
      exact ⟨requestA, tenantA, by decide +kernel, hcall.symm⟩
    | _ => trivial
  have huuid : ∀ token t, tokensAB token = .ok t → IsUuid t := by
    intro token t ht
    unfold tokensAB at ht
    split at ht <;> exact Except.ok.inj ht ▸ (by decide +kernel)
  have howner : ∀ x, IsUuid (ownerAB x) := by
    intro x
    unfold ownerAB
    split <;> decide +kernel
  obtain ⟨req, hpub, hcheck, -, hid, -⟩ := (delivery_isolated (.plain {}) tokensAB huuid ownerAB
    howner [] [] (fun _ => []) deliversToA hown hreq "n" "conn-a" conn hconn).2 item hmem m hm
  exact ⟨conn, hconn, item, hmem, m, hm, req, hpub, hcheck, hid⟩

end Relay
