/-
# Tenants on one process

`docs/security.md` says that isolation is by construction: a connection only touches channels in
its tenant's namespace `t-<tenant>:`.  SUBSCRIBE and RESUME check the namespace; UNSUBSCRIBE does
not.

`Namespaced` is the part that holds, in every reachable state: what a connection is subscribed to,
and what the channel index says about it, lies in its tenant's namespace.  So the cleanup of a
connection stays in its namespace, too, and the one frame that reaches into another tenant's
channel is an UNSUBSCRIBE that names it.  `frame_leaves_channel_iff` says when it does damage: in
every state in which there is anything to damage.
-/
import Mathlib
import Relay.World

namespace Relay

open Gateway

/-! ## 1. Subscriptions stay in the namespace -/

/-- Every connection is its owner's, and it is subscribed, in its own table and in the channel
index, to channels of its owner only. -/
structure Namespaced (owner : ConnId → String) (n : Node) : Prop where
  table : ∀ y conn, n.registry.byId.get? y = some conn → conn.tenantId = owner y ∧
    ∀ channel ∈ conn.subscriptions, channelBelongsToTenant channel (owner y) = true
  index : ∀ channel y, y ∈ n.registry.subscribersOf channel →
    channelBelongsToTenant channel (owner y) = true

section Namespaced

variable {owner : ConnId → String}

theorem Namespaced.of_registry {n n' : Node} (h : Namespaced owner n)
    (hr : n'.registry = n.registry) : Namespaced owner n' := by
  constructor
  · rw [hr]; exact h.table
  · rw [hr]; exact h.index

theorem Namespaced.outbound {n n' : Node} (h : Namespaced owner n) (ho : n.Outbound n') :
    Namespaced owner n' := by
  constructor
  · intro y conn' hy
    obtain ⟨conn, hc, hid⟩ := ho.before hy
    have ht : conn.tenantId = conn'.tenantId := congrArg (fun i => i.1.tenantId) hid
    have hs : conn.subscriptions = conn'.subscriptions := congrArg Prod.snd hid
    rw [← ht, ← hs]
    exact h.table y conn hc
  · intro channel y hy
    rw [ho.subscribersOf] at hy
    exact h.index channel y hy

theorem Namespaced.subscribe {n : Node} (h : Namespaced owner n) {x : ConnId} {channel : Channel}
    (own : channelBelongsToTenant channel (owner x) = true) :
    Namespaced owner (n.subscribe x channel) := by
  constructor
  · intro y conn hy
    simp only [Node.subscribe, Registry.get_subscribe] at hy
    split at hy
    · rename_i hyx
      obtain ⟨c, hc, rfl⟩ := Option.map_eq_some_iff.mp hy
      obtain ⟨ht, hs⟩ := h.table y c hc
      refine ⟨ht, fun ch hch => ?_⟩
      rcases OSet.mem_add.mp hch with rfl | hch
      · rw [hyx]; exact own
      · exact hs ch hch
    · exact h.table y conn hy
  · intro ch y hy
    rcases (Registry.mem_subscribersOf_subscribe _ _ _ _ _).mp hy with ⟨rfl, rfl, -⟩ | hy
    · exact own
    · exact h.index ch y hy

theorem Namespaced.unsubscribe {n : Node} (h : Namespaced owner n) (x : ConnId)
    (channel : Channel) : Namespaced owner (n.unsubscribe x channel) := by
  constructor
  · intro y conn hy
    simp only [Node.unsubscribe, Registry.get_unsubscribe] at hy
    split at hy
    · obtain ⟨c, hc, rfl⟩ := Option.map_eq_some_iff.mp hy
      obtain ⟨ht, hs⟩ := h.table y c hc
      exact ⟨ht, fun ch hch => hs ch (OSet.mem_discard.mp hch).2⟩
    · exact h.table y conn hy
  · intro ch y hy
    exact h.index ch y ((Registry.mem_subscribersOf_unsubscribe _ _ _ _ _).mp hy).2

theorem Namespaced.remove {n : Node} (h : Namespaced owner n) (x : ConnId) :
    Namespaced owner (n.remove x) := by
  constructor
  · intro y conn hy
    simp only [Node.remove, Registry.get_remove] at hy
    split at hy
    · exact absurd hy (by simp)
    · exact h.table y conn hy
  · intro ch y hy
    exact h.index ch y ((Registry.mem_subscribersOf_remove _ _ _ _).mp hy).2

theorem Namespaced.add {n : Node} (h : Namespaced owner n) (x : ConnId) (sessionId : String)
    (userId : Option String) :
    Namespaced owner (n.add (newConnection x sessionId (owner x) userId)) := by
  constructor
  · intro y conn hy
    simp only [Node.add, Registry.get_add] at hy
    split at hy
    · rename_i hyx
      obtain rfl := Option.some.inj hy
      exact ⟨congrArg owner hyx.symm, fun ch hch => absurd hch (OSet.not_mem_empty ch)⟩
    · exact h.table y conn hy
  · exact h.index

theorem namespaced_effect {env : Env} {x : ConnId} {sc : Scope}
    {g g' : Gateway} (h : Namespaced owner g.node)
    (e : Effect env x (owner x) sc g g') : Namespaced owner g'.node := by
  cases e with
  | redis _ => exact h
  | write frame _ => exact h.outbound (Node.outbound_sendText x frame _)
  | bookkeeping f hf => exact h.outbound (Node.outbound_updateConn _ _ (fun c _ => hf.ident c))
  | replay channel messages _ _ _ => exact h.outbound (outbound_replayInto env x channel messages _)
  | subscribe channel own _ => exact h.subscribe own
  | countUp channel _ _ => exact h.of_registry rfl
  | startListener channel _ _ => exact h.of_registry (Node.registry_startListener channel _)
  | unsubscribe channel _ => exact h.unsubscribe x channel
  | countDown channel _ => exact h.of_registry (Node.registry_countDown channel _)
  | add sessionId userId _ => exact h.add x sessionId userId
  | remove _ => exact h.remove x
  | look => exact h

end Namespaced

/-! ## 2. In every reachable state -/

/-- The segments of a process's handlers, for the tenants behind their connections. -/
def HandlerMove (env : Env) (owner : NodeId → ConnId → String) (n : NodeId) (g g' : Gateway) :
    Prop :=
  ∃ x, Effect (env.at n) x (owner n x) .all g g'

/-- Connection ids are drawn afresh for every socket, so the tenant behind an id is a function of
the id: a token accepted on the socket that becomes `x` is one of `owner x`. -/
def WorldAct.OwnedBy (owner : ConnId → String) : WorldAct → Prop
  | .accept _ s _ => ∀ t, s.authenticate = .ok t → t = owner s.connectionId
  | _ => True

/-- The same for the ids that one process draws. -/
def WorldAct.OwnedAt (owner : NodeId → ConnId → String) : WorldAct → Prop
  | .accept n s _ => ∀ t, s.authenticate = .ok t → t = owner n s.connectionId
  | _ => True

theorem WorldAct.OwnedBy.ownedAt {owner : ConnId → String} {a : WorldAct} (h : a.OwnedBy owner) :
    a.OwnedAt (fun _ => owner) := by
  cases a <;> exact h

theorem registry_listenerStep {owner : ConnId → String} {env : Env} {channel : Channel}
    {a : ListenerAct} {g : Gateway} (h : Namespaced owner g.node) :
    Namespaced owner (listenerStep env channel a g).node := by
  rcases listenerStep_cases env channel a g with he | ⟨l, -, -, -, he⟩
  · rw [he]; exact h
  rcases he with ⟨-, -, he⟩ | ⟨-, -, m, rest, -, he⟩ | ⟨-, -, he⟩ | ⟨-, -, he⟩ | ⟨-, -, he⟩
  · rw [he]; exact h.of_registry rfl
  · rw [he]; exact h.outbound (Node.outbound_deliverLocal env channel m _)
  · rw [he]; exact h.of_registry rfl
  · rw [he]; exact h.of_registry rfl
  · rw [he]; exact h.of_registry rfl

theorem namespaced_step (env : Env) {owner : NodeId → ConnId → String} (w : World) (a : WorldAct)
    (ha : a.OwnedAt owner)
    (h : w.Holds (fun n g => Namespaced (owner n) g.node) (HandlerMove env owner)) :
    (w.step env a).Holds (fun n g => Namespaced (owner n) g.node) (HandlerMove env owner) := by
  have hconn : ∀ (n : NodeId) (x : ConnId) (f : Connection → Connection),
      (∀ c, (f c).ident = c.ident) →
      (w.onNode n (Node.updateConn x f)).Holds (fun n g => Namespaced (owner n) g.node)
        (HandlerMove env owner) := fun n x f hf =>
    h.onNode ((h.1 n).outbound (Node.outbound_updateConn _ _ (fun c _ => hf c)))
  cases a with
  | accept n s inputs =>
    refine h.spawn (Prog.Keeps.mono (fun g g' _ he => ⟨s.connectionId, he⟩) ?_)
    exact handleConnection_keeps (fun g g' hg he => namespaced_effect hg he) rfl ha
      (fun _ _ => trivial) (fun _ _ _ _ _ => trivial) (fun _ _ _ _ _ _ => trivial)
      (fun _ _ _ => rfl) (fun _ _ _ _ => trivial)
  | task i => exact h.task (fun _ _ _ _ _ _ _ hI => hI) i
  | publish call => exact h
  | publisher i => exact h
  | listener n channel a => exact h.put (registry_listenerStep (h.1 n)) (fun _ _ hI => hI)
  | reap n =>
    refine h.put ?_ (fun _ _ hI => hI)
    unfold reap
    split
    · exact h.1 n
    · exact (h.1 n).of_registry rfl
  | terminate n =>
    simp only [World.step, World.stepTerminate]
    split
    · exact h
    · rename_i x rest _
      refine World.Holds.spawn (w := w.onNode n (fun node => { node with terminating := rest }))
        (h.onNode ((h.1 n).of_registry rfl))
        (Prog.Keeps.mono (fun g g' _ he => ⟨x, he⟩) ?_)
      exact terminateSlowConsumer_keeps (fun g g' hg he => namespaced_effect hg he)
  | sender n x => exact hconn n x _ (Connection.ident_senderStep env)
  | sendFails n x => exact hconn n x _ Connection.ident_sendFails
  | ping n x serverTime => exact hconn n x _ (World.ident_pingConn env serverTime)
  | timeout n x => exact hconn n x _ (fun _ => rfl)
  | tick micros => exact h

/-- **Isolation of subscriptions.**  In every reachable state of every process. -/
theorem namespaced_at_run (env : Env) {owner : NodeId → ConnId → String} (faults : List Bool)
    (trims : List Nat) (socketFaults : NodeId → List Bool) {acts : List WorldAct}
    (hacts : ∀ a ∈ acts, a.OwnedAt owner) (n : NodeId) :
    Namespaced (owner n)
      ((runAll (World.step env) (World.start faults trims socketFaults) acts).nodes n) := by
  have hstart : (World.start faults trims socketFaults).Holds
      (fun n g => Namespaced (owner n) g.node) (HandlerMove env owner) := by
    refine ⟨fun m => ⟨fun y conn hy => absurd hy (by simp [World.gateway, World.start]),
      fun channel y hy => absurd hy (OSet.not_mem_empty y)⟩, fun t ht => ?_⟩
    exact absurd ht List.not_mem_nil
  exact (runAll_invariant (fun w a hw (ha : a.OwnedAt owner) => namespaced_step env w a ha hw)
    acts _ hstart (along_of_forall acts hacts)).1 n

theorem namespaced_run (env : Env) {owner : ConnId → String} (faults : List Bool)
    (trims : List Nat) (socketFaults : NodeId → List Bool) {acts : List WorldAct}
    (hacts : ∀ a ∈ acts, a.OwnedBy owner) (n : NodeId) :
    Namespaced owner
      ((runAll (World.step env) (World.start faults trims socketFaults) acts).nodes n) :=
  namespaced_at_run env faults trims socketFaults (fun a ha => (hacts a ha).ownedAt) n

/-- A registered connection has come in on a socket of its process, with a token of its tenant. -/
theorem accepted_of_registered (env : Env) {owner : NodeId → ConnId → String} (faults : List Bool)
    (trims : List Nat) (socketFaults : NodeId → List Bool) {acts : List WorldAct}
    (hacts : ∀ a ∈ acts, a.OwnedAt owner) {n : NodeId} {x : ConnId} {conn : Connection}
    (hconn : ((runAll (World.step env) (World.start faults trims socketFaults) acts).nodes
      n).registry.byId.get? x = some conn) :
    ∃ s inputs, .accept n s inputs ∈ acts ∧ s.connectionId = x ∧
      s.authenticate = .ok conn.tenantId := by
  have howner := ((namespaced_at_run env faults trims socketFaults hacts n).table x conn hconn).1
  by_contra hno
  -- without such a socket any tenant would do as the owner of the id, and the connection has one
  have hany : ∀ o : String, conn.tenantId = o := by
    intro o
    have hacts' : ∀ a ∈ acts,
        a.OwnedAt (Function.update owner n (Function.update (owner n) x o)) := by
      intro a ha
      cases a with
      | accept m s inputs =>
        intro t ht
        have hold := hacts _ ha t ht
        rcases eq_or_ne m n with rfl | hm
        · rw [Function.update_self]
          rcases eq_or_ne s.connectionId x with hx | hx
          · exact absurd ⟨s, inputs, ha, hx, by rw [ht, hold, hx, howner]⟩ hno
          · rw [Function.update_of_ne hx]
            exact hold
        · rw [Function.update_of_ne hm]
          exact hold
      | _ => trivial
    have := ((namespaced_at_run env faults trims socketFaults hacts' n).table x conn hconn).1
    rwa [Function.update_self, Function.update_self] at this
  exact absurd ((hany "a").symm.trans (hany "b")) (by decide)

/-! ## 3. What one frame does to a channel of another tenant -/

/-- What a process and Redis hold about a channel: its subscribers, its count, its listener, and
whether the process is in its room. -/
def channelView (env : Env) (channel : Channel) (g : Gateway) :
    Set ConnId × Option Int × Option Listener × Bool :=
  ({y | y ∈ g.node.registry.subscribersOf channel}, g.node.localSubscriberCounts.get? channel,
    g.node.listeners.get? channel, g.redis.inRoom channel env.settings.nodeId)

section View

variable {env : Env} {channel : Channel}

theorem channelView_congr {g g' : Gateway}
    (hsubs : ∀ y, y ∈ g'.node.registry.subscribersOf channel ↔
      y ∈ g.node.registry.subscribersOf channel)
    (hcount : g'.node.localSubscriberCounts.get? channel
      = g.node.localSubscriberCounts.get? channel)
    (hlis : g'.node.listeners.get? channel = g.node.listeners.get? channel)
    (hroom : g'.redis.inRoom channel env.settings.nodeId
      = g.redis.inRoom channel env.settings.nodeId) :
    channelView env channel g' = channelView env channel g := by
  have hset : {y | y ∈ g'.node.registry.subscribersOf channel}
      = {y | y ∈ g.node.registry.subscribersOf channel} := Set.ext hsubs
  unfold channelView
  rw [hcount, hlis, hroom, hset]

theorem channelView_outbound {g : Gateway} {n : Node} (h : g.node.Outbound n) :
    channelView env channel (setNode n g) = channelView env channel g := by
  refine channelView_congr (fun y => ?_) ?_ ?_ rfl
  · simp only [setNode, h.subscribersOf]
  · simp only [setNode, h.counts]
  · simp only [setNode, h.listeners]

/-- A count or listener of another channel does not show. -/
theorem channelView_manager {g : Gateway} {n : Node} (hr : n.registry = g.node.registry)
    (hc : n.localSubscriberCounts.get? channel = g.node.localSubscriberCounts.get? channel)
    (hl : n.listeners.get? channel = g.node.listeners.get? channel) :
    channelView env channel (setNode n g) = channelView env channel g :=
  channelView_congr (fun y => by simp only [setNode, hr]) hc hl rfl

theorem channelView_countDown_of_ne {d : Channel} (h : channel ≠ d) (g : Gateway) :
    channelView env channel (setNode (g.node.countDown d).2 g) = channelView env channel g := by
  refine channelView_manager (Node.registry_countDown d _) ?_ ?_
  · unfold Node.countDown
    split
    · simp [Node.counts_stopListener, h]
    · simp [h]
  · unfold Node.countDown
    split
    · exact Node.listeners_stopListener_of_ne h _
    · rfl

/-- **An effect of a connection shows at no channel outside `touch` and outside the namespace of
its tenant.** -/
theorem effect_view {owner : ConnId → String} {x : ConnId} {sc : Scope} {g g' : Gateway}
    (h : Namespaced owner g.node) (e : Effect env x (owner x) sc g g')
    (ht : ¬ sc.touch channel)
    (hown : ¬ channelBelongsToTenant channel (owner x) = true) :
    channelView env channel g' = channelView env channel g := by
  have hne : ∀ {d}, sc.touch d → channel ≠ d := fun hd he => ht (he ▸ hd)
  cases e with
  | redis hs =>
    refine channelView_congr (fun _ => Iff.rfl) rfl rfl ?_
    simp only [setRedis, Redis.inRoom, hs.now, hs.room channel ht]
  | write frame _ => exact channelView_outbound (Node.outbound_sendText x frame _)
  | bookkeeping f hf =>
    exact channelView_outbound (Node.outbound_updateConn _ _ (fun c _ => hf.ident c))
  | replay d messages _ _ _ => exact channelView_outbound (outbound_replayInto env x d messages _)
  | subscribe d own hd =>
    refine channelView_congr (fun y => ?_) rfl rfl rfl
    simp only [setNode, Node.subscribe, Registry.mem_subscribersOf_subscribe, hne hd, false_and,
      and_false, false_or]
  | countUp d _ hd =>
    refine channelView_manager rfl ?_ rfl
    simp [Node.countUp, hne hd]
  | startListener d _ hd =>
    exact channelView_manager (Node.registry_startListener d _) (by rw [Node.counts_startListener])
      (Node.listeners_startListener_of_ne (hne hd) _)
  | unsubscribe d hd =>
    refine channelView_congr (fun y => ?_) rfl rfl rfl
    simp only [setNode, Node.unsubscribe, Registry.mem_subscribersOf_unsubscribe, hne hd,
      and_false, not_false_eq_true, true_and]
  | countDown d hd => exact channelView_countDown_of_ne (hne hd) g
  | add sessionId userId _ => exact channelView_congr (fun _ => Iff.rfl) rfl rfl rfl
  | remove _ =>
    refine channelView_congr (fun y => ?_) rfl rfl rfl
    simp only [setNode, Node.remove, Registry.mem_subscribersOf_remove]
    refine ⟨fun hy => hy.2, fun hy => ⟨?_, hy⟩⟩
    rintro ⟨rfl, conn, hc, hch⟩
    exact hown ((h.table _ conn hc).2 channel hch)
  | look => rfl

end View

/-! ## 4. The UNSUBSCRIBE of a foreign channel -/

section Detach

variable {env : Env} {x : ConnId} {channel : Channel} {g : Gateway}

/-- The UNSUBSCRIBE branch up to its reply. -/
def detach (env : Env) (x : ConnId) (channel : Channel) : Prog Gateway Exn Unit := do
  locally (Node.unsubscribe x channel)
  onLocalUnsubscribe env channel

/-- The store after the SREM, if the count says that it is due. -/
def redisAfterDetach (env : Env) (x : ConnId) (channel : Channel) (g : Gateway) : Redis :=
  if ((g.node.unsubscribe x channel).countDown channel).1 then
    (Redis.attempt (Redis.roomRemove channel env.settings.nodeId) g.redis).2
  else g.redis

theorem detach_run : ((detach env x channel).run g).2
    = ⟨redisAfterDetach env x channel g, ((g.node.unsubscribe x channel).countDown channel).2⟩ := by
  have h : (detach env x channel).run g = (if ((g.node.unsubscribe x channel).countDown channel).1
      then withRedis (Redis.command (Redis.roomRemove channel env.settings.nodeId))
      else .ret ()).run ⟨g.redis, ((g.node.unsubscribe x channel).countDown channel).2⟩ := rfl
  rw [h, redisAfterDetach]
  split
  · rw [run_withRedis, Redis.command, Prog.run_atomic]
    rfl
  · rfl

/-- There is something to lose: a count, a listener, or a room membership and a Redis that
answers. -/
def Exposed (env : Env) (channel : Channel) (g : Gateway) : Prop :=
  g.node.localSubscriberCounts.get? channel ≠ none ∨ g.node.listeners.get? channel ≠ none ∨
    (g.redis.inRoom channel env.settings.nodeId = true ∧ g.redis.faults.head? ≠ some true)

instance : Decidable (Exposed env channel g) := inferInstanceAs (Decidable (_ ∨ _ ∨ _))

theorem inRoom_attempt_roomRemove (r : Redis) (node : NodeId) :
    (Redis.attempt (Redis.roomRemove channel node) r).2.inRoom channel node = r.inRoom channel node ↔
      ¬ (r.inRoom channel node = true ∧ r.faults.head? ≠ some true) := by
  unfold Redis.attempt
  split
  · rename_i rest hf
    exact iff_of_true rfl (by simp [hf])
  · rename_i rest hf
    rw [Redis.inRoom_roomRemove]
    cases h : r.inRoom channel node <;> simp [hf]
  · rename_i hf
    rw [Redis.inRoom_roomRemove]
    cases h : r.inRoom channel node <;> simp [hf]

/-- Counting down shows at the count or at the listener, if there is one of them. -/
theorem countDown_exposed {n : Node}
    (hc : (n.countDown channel).2.localSubscriberCounts.get? channel
      = n.localSubscriberCounts.get? channel)
    (hl : (n.countDown channel).2.listeners.get? channel = n.listeners.get? channel) :
    n.localSubscriberCounts.get? channel = none ∧ n.listeners.get? channel = none := by
  unfold Node.countDown at hc hl
  split at hc
  · rename_i hle
    simp only [Node.counts_stopListener, Dict.get?_erase, if_true] at hc
    refine ⟨hc.symm, ?_⟩
    rw [if_pos hle] at hl
    unfold Node.stopListener at hl
    cases h : n.listeners.get? channel with
    | none => rfl
    | some l => simp [h] at hl
  · rename_i hgt
    simp only [Dict.get?_set, if_true] at hc
    have : n.localSubscriberCounts.getD channel 0 = n.localSubscriberCounts.getD channel 0 - 1 := by
      conv_lhs => rw [Dict.getD, ← hc]
      rfl
    omega

theorem countDown_absent {n : Node} (hc : n.localSubscriberCounts.get? channel = none)
    (hl : n.listeners.get? channel = none) :
    (n.countDown channel).1 = true ∧
      (n.countDown channel).2.localSubscriberCounts.get? channel = none ∧
      (n.countDown channel).2.listeners.get? channel = none := by
  have h0 : n.localSubscriberCounts.getD channel 0 - 1 ≤ 0 := by
    rw [Dict.getD, hc]
    decide
  unfold Node.countDown
  rw [if_pos h0]
  refine ⟨rfl, ?_, ?_⟩
  · simp [Node.counts_stopListener]
  · simp [Node.stopListener, hl]

/-- The view of a channel survives its UNSUBSCRIBE by a connection that is not subscribed to it
exactly when nothing is exposed. -/
theorem detach_view_iff (hx : x ∉ g.node.registry.subscribersOf channel) :
    channelView env channel ((detach env x channel).run g).2 = channelView env channel g ↔
      ¬ Exposed env channel g := by
  have hreg : ((g.node.unsubscribe x channel).countDown channel).2.registry
      = g.node.registry.unsubscribe x channel := Node.registry_countDown channel _
  have hsubs : ∀ y, y ∈ ((g.node.unsubscribe x channel).countDown channel).2.registry.subscribersOf
      channel ↔ y ∈ g.node.registry.subscribersOf channel := by
    intro y
    rw [hreg, Registry.mem_subscribersOf_unsubscribe]
    refine ⟨fun hy => hy.2, fun hy => ⟨?_, hy⟩⟩
    rintro ⟨rfl, -⟩
    exact hx hy
  rw [detach_run]
  constructor
  · intro h
    simp only [channelView, Prod.mk.injEq] at h
    obtain ⟨-, hc, hl, hr⟩ := h
    obtain ⟨hc0, hl0⟩ := countDown_exposed hc hl
    rw [redisAfterDetach, if_pos (countDown_absent hc0 hl0).1,
      inRoom_attempt_roomRemove] at hr
    rintro (h1 | h1 | h1)
    · exact h1 hc0
    · exact h1 hl0
    · exact hr h1
  · intro h
    simp only [Exposed, not_or, not_not] at h
    obtain ⟨hc0, hl0, hr⟩ := h
    obtain ⟨hlast, hc1, hl1⟩ := countDown_absent (n := g.node.unsubscribe x channel) hc0 hl0
    refine channelView_congr hsubs (hc1.trans hc0.symm) (hl1.trans hl0.symm) ?_
    rw [redisAfterDetach, if_pos hlast, inRoom_attempt_roomRemove]
    exact hr

end Detach

/-- What an UNSUBSCRIBE frame runs. -/
theorem onReceived_unsubscribes {env : Env} {p : Peer} {input : Received} {channel : Channel}
    (h : input.unsubscribes = some channel) :
    onReceived env p input = (detach env p.connectionId channel).bind (fun _ =>
      (sendText p.connectionId (.unsubscribed channel)).bind (fun _ => .ret true)) := by
  cases input with
  | garbage => exact absurd h (by simp [Received.unsubscribes])
  | closed => exact absurd h (by simp [Received.unsubscribes])
  | json raw =>
    cases raw with
    | obj fields =>
      simp only [Received.unsubscribes, unsubscribes] at h
      split at h
      · rename_i hb
        simp only [onReceived, onFrame, hb, onUnsubscribe, h]
        rfl
      · exact absurd h (by simp)
    | _ => exact absurd h (by simp [Received.unsubscribes, unsubscribes])

/-! ## 5. Cross-tenant interference -/

section Foreign

variable {env : Env} {owner : ConnId → String} {p : Peer} {channel : Channel}
  (hp : p.tenantId = owner p.connectionId)
  (hforeign : ¬ channelBelongsToTenant channel (owner p.connectionId) = true)

include hp hforeign

/-- A program whose segments are effects outside the channel keeps its view. -/
theorem run_view {α : Type} {q : Prog Gateway Exn α} {sc : Scope}
    (hq : q.Keeps (fun g => Namespaced owner g.node)
      (Effect env p.connectionId p.tenantId sc)) (ht : ¬ sc.touch channel) {g : Gateway}
    (hg : Namespaced owner g.node) :
    channelView env channel (q.run g).2 = channelView env channel g := by
  rw [hp] at hq
  have hview : q.Keeps (fun g => Namespaced owner g.node)
      (fun s s' => channelView env channel s' = channelView env channel s) := by
    refine hq.mono ?_
    intro s s' hs e
    exact effect_view hs e ht hforeign
  refine (Prog.run_keeps ?_ ?_ hview hg).2
  · exact fun _ => rfl
  · exact fun _ _ _ h1 h2 => h2.trans h1

theorem turn_view_of_ne {input : Received} (h : input.unsubscribes ≠ some channel) {g : Gateway}
    (hg : Namespaced owner g.node) :
    channelView env channel ((turn env p input).run g).2 = channelView env channel g := by
  have hkeeps : (turn env p input).Keeps (fun g => Namespaced owner g.node)
      (Effect env p.connectionId p.tenantId ⟨true, true, fun d =>
        channelBelongsToTenant d p.tenantId = true ∨ input.unsubscribes = some d,
        fun _ _ => True⟩) := by
    refine turn_keeps (fun _ _ hs e => namespaced_effect hs (hp ▸ e)) (fun _ => Or.inl)
      (fun _ _ _ _ _ => trivial) rfl ?_ (fun _ => rfl) (fun _ => Or.inr)
    intro g conn hs hconn d hd
    exact Or.inl (hp ▸ (hs.table _ conn hconn).2 d hd)
  refine run_view hp hforeign hkeeps ?_ hg
  rw [hp]
  exact not_or.mpr ⟨hforeign, h⟩

theorem turn_view_of_unsubscribes {input : Received} (h : input.unsubscribes = some channel)
    {g : Gateway} (hg : Namespaced owner g.node) :
    channelView env channel ((turn env p input).run g).2
      = channelView env channel ((detach env p.connectionId channel).run g).2 := by
  have hI : Effect.Invariant env p.connectionId p.tenantId
      ⟨true, true, fun d => channelBelongsToTenant d p.tenantId = true, fun _ _ => True⟩
      (fun g => Namespaced owner g.node) := fun _ _ hs e => namespaced_effect hs (hp ▸ e)
  have hafter : ∀ outcome, (afterBody env p outcome).Keeps (fun g => Namespaced owner g.node)
      (Effect env p.connectionId p.tenantId
        ⟨true, true, fun d => channelBelongsToTenant d p.tenantId = true, fun _ _ => True⟩) :=
    afterBody_keeps hI rfl (fun g conn hs hconn d hd => hp ▸ (hs.table _ conn hconn).2 d hd)
  have hout : ¬ channelBelongsToTenant channel p.tenantId = true := hp ▸ hforeign
  -- the part before the reply keeps the invariant, whatever it does to the channel
  have hmid : Namespaced owner ((detach env p.connectionId channel).run g).2.node := by
    rw [detach_run]
    exact (hg.unsubscribe _ _).of_registry (Node.registry_countDown channel _)
  unfold turn
  rw [onReceived_unsubscribes h, Prog.run_try_bind]
  split
  · rename_i g' hrun
    rw [hrun] at hmid ⊢
    exact run_view hp hforeign
      (((sendText_keeps hI rfl).bind fun _ => Prog.keeps_ret true).try.bind hafter) hout hmid
  · rename_i e g' hrun
    rw [hrun] at hmid ⊢
    exact run_view hp hforeign (hafter (.error e)) hout hmid

end Foreign

/-- **When a frame leaves another tenant's channel alone.**  In every reachable state, for every
connection, everything it can receive and every channel of another tenant: the subscribers, the
count, the listener and the room membership of the channel are as before, unless the frame is an
UNSUBSCRIBE that names the channel and there is something to lose. -/
theorem frame_leaves_channel_iff (env : Env) (owner : ConnId → String) (faults : List Bool)
    (trims : List Nat) (socketFaults : NodeId → List Bool) (acts : List WorldAct)
    (hacts : ∀ a ∈ acts, a.OwnedBy owner) (w : World)
    (hw : w = runAll (World.step env) (World.start faults trims socketFaults) acts)
    (n : NodeId) (x : ConnId) (conn : Connection)
    (hx : (w.nodes n).registry.byId.get? x = some conn) (hb : IsUuid conn.tenantId) (a : String)
    (ha : IsUuid a) (hne : a ≠ conn.tenantId) (channel : Channel)
    (hch : channelBelongsToTenant channel a = true) (input : Received) :
    channelView (env.at n) channel
        ((turn (env.at n) (peerOf x conn) input).run (w.gateway n)).2
      = channelView (env.at n) channel (w.gateway n) ↔
    ¬ (input.unsubscribes = some channel ∧ Exposed (env.at n) channel (w.gateway n)) := by
  have hns : Namespaced owner (w.nodes n) := hw ▸ namespaced_run env faults trims socketFaults
    hacts n
  obtain ⟨hown, -⟩ := hns.table x conn hx
  have hforeign : ¬ channelBelongsToTenant channel (owner x) = true := fun h =>
    hne (belongs_unique ha hb hch (hown ▸ h))
  have hin : x ∉ (w.nodes n).registry.subscribersOf channel := fun hmem =>
    hforeign (hns.index channel x hmem)
  generalize hp : peerOf x conn = p
  have hid : p.connectionId = x := by rw [← hp, peerOf]
  have htenant : p.tenantId = owner p.connectionId := by rw [hid, ← hown, ← hp, peerOf]
  rw [← hid] at hforeign hin
  by_cases hun : input.unsubscribes = some channel
  · rw [turn_view_of_unsubscribes htenant hforeign hun (g := w.gateway n) hns,
      detach_view_iff hin]
    exact not_congr (Iff.intro (fun h => ⟨hun, h⟩) And.right)
  · exact iff_of_true (turn_view_of_ne htenant hforeign hun hns) (fun h => hun h.1)

/-! ## 6. Two tenants on one process -/

def tenantA : String := "11111111-1111-1111-1111-111111111111"

def tenantB : String := "22222222-2222-2222-2222-222222222222"

def channelA : Channel := namespacedChannel tenantA "c"

/-- Who is behind the two connections. -/
def ownerAB (x : ConnId) : String := if x = "conn-a" then tenantA else tenantB

/-- A connection of tenant A subscribes to its channel, then tenant B connects. -/
def twoTenantsRun : List WorldAct :=
  .accept "n" ⟨"conn-a", "s-a", some (ClientFrame.connect "token" none).toJson, .ok tenantA⟩
      [.json (ClientFrame.subscribe channelA).toJson] ::
    List.replicate 14 (.task 0) ++
  .accept "n" ⟨"conn-b", "s-b", some (ClientFrame.connect "token" none).toJson, .ok tenantB⟩ [] ::
    List.replicate 9 (.task 1)

def twoTenants : World :=
  runAll (World.step (.plain {})) (World.start [] [] (fun _ => [])) twoTenantsRun

theorem twoTenantsRun_owned : ∀ a ∈ twoTenantsRun, a.OwnedBy ownerAB := by
  intro a ha
  simp only [twoTenantsRun, List.cons_append, List.mem_cons, List.mem_append,
    List.mem_replicate] at ha
  rcases ha with rfl | ⟨-, rfl⟩ | rfl | ⟨-, rfl⟩
  · intro t ht
    exact (Except.ok.inj ht).symm
  · trivial
  · intro t ht
    exact (Except.ok.inj ht).symm
  · trivial

/-- Tenant B, as the handler of its connection knows it. -/
def peerB : Peer := ⟨"conn-b", "s-b", tenantB, none⟩

theorem peerB_registered : ((twoTenants.nodes "n").registry.byId.get? "conn-b").map
    Connection.peer = some peerB := by decide +kernel

/-- Tenant B unsubscribes tenant A's channel, and A's listener is gone. -/
theorem foreign_unsubscribe_interferes :
    (∀ a ∈ twoTenantsRun, a.OwnedBy ownerAB) ∧ IsUuid tenantA ∧ IsUuid tenantB ∧
      tenantA ≠ tenantB ∧ channelBelongsToTenant channelA tenantA = true ∧
      ((twoTenants.nodes "n").registry.byId.get? "conn-b").map Connection.peer = some peerB ∧
      channelView ((Env.plain {}).at "n") channelA
          ((turn ((Env.plain {}).at "n") peerB (.json (ClientFrame.unsubscribe channelA).toJson)).run
            (twoTenants.gateway "n")).2
        ≠ channelView ((Env.plain {}).at "n") channelA (twoTenants.gateway "n") := by
  refine ⟨twoTenantsRun_owned, by decide +kernel, by decide +kernel, by decide +kernel,
    by decide +kernel, peerB_registered, fun h => ?_⟩
  have hlis : ((channelView ((Env.plain {}).at "n") channelA
      ((turn ((Env.plain {}).at "n") peerB (.json (ClientFrame.unsubscribe channelA).toJson)).run
        (twoTenants.gateway "n")).2)).2.2.1.isSome
      ≠ (channelView ((Env.plain {}).at "n") channelA (twoTenants.gateway "n")).2.2.1.isSome := by
    decide +kernel
  exact hlis (congrArg (fun v => v.2.2.1.isSome) h)

/-- The SUBSCRIBE of tenant A's channel by tenant B is refused and changes nothing. -/
theorem foreign_subscribe_is_inert :
    ∃ conn, (twoTenants.nodes "n").registry.byId.get? "conn-b" = some conn ∧
      channelView ((Env.plain {}).at "n") channelA
          ((turn ((Env.plain {}).at "n") (peerOf "conn-b" conn)
            (.json (ClientFrame.subscribe channelA).toJson)).run (twoTenants.gateway "n")).2
        = channelView ((Env.plain {}).at "n") channelA (twoTenants.gateway "n") := by
  obtain ⟨conn, hconn, hpeer⟩ := Option.map_eq_some_iff.mp peerB_registered
  have htenant : conn.tenantId = tenantB := congrArg Peer.tenantId hpeer
  refine ⟨conn, hconn, (frame_leaves_channel_iff (.plain {}) ownerAB [] [] (fun _ => [])
    twoTenantsRun twoTenantsRun_owned twoTenants rfl "n" "conn-b" conn hconn ?_ tenantA ?_ ?_
    channelA ?_ _).mpr ?_⟩
  · rw [htenant]; decide +kernel
  · decide +kernel
  · rw [htenant]; decide +kernel
  · decide +kernel
  · decide +kernel

end Relay
