/-
# Counting subscribers

The registry keeps a set of connections per channel; the subscription manager keeps a bare number,
and starts and stops the channel's listener by it.  `on_local_subscribe` adds one however often a
connection subscribes, `on_local_unsubscribe` takes one away whoever asks.

Here events are handled one after the other, with Redis up.  `Tracks drift` is the exact relation
between the two structures: the number is the size of the set plus a `drift`, and there is a live
listener exactly while the number is positive.  A second SUBSCRIBE (or a RESUME and a SUBSCRIBE) of
one connection raises the drift, an UNSUBSCRIBE of a connection that is not subscribed lowers it.
Two results follow:

* `subscriber_has_listener`: as long as no UNSUBSCRIBE takes away a number that belongs to somebody
  else, every subscribed connection has a listener;
* `counts_are_exact`: as long as, in addition, nobody subscribes twice, the number is the size of
  the set and the last one to leave stops the listener.

Neither condition is enforced by the code, and the reference client breaks the second one on every
reconnect.
-/
import Mathlib
import Relay.Sequential
import Relay.Lib.Run

namespace Relay

open Gateway Redis

/-! ## 1. The number and the listener of a channel -/

/-- The registered connections that are subscribed to a channel. -/
def Node.subscribedCount (channel : Channel) (n : Node) : Nat :=
  n.registry.byId.count (fun _ conn => decide (channel ∈ conn.subscriptions))

/-- A listener task that has been neither stopped nor cancelled, and has not returned. -/
def Listener.Live (l : Listener) : Prop :=
  l.stopped = false ∧ l.cancelled = false ∧ l.phase ≠ .done

/-- The manager holds number `k` for the channel: a count of `k` with a live listener, or neither
when `k` is zero. -/
def Node.Numbers (channel : Channel) (k : Nat) (n : Node) : Prop :=
  (k = 0 ∧ n.localSubscriberCounts.get? channel = none ∧ n.listeners.get? channel = none) ∨
    (0 < k ∧ n.localSubscriberCounts.get? channel = some (k : Int) ∧
      ∃ l, n.listeners.get? channel = some l ∧ l.Live)

namespace Node

variable {channel c : Channel} {k : Nat} {n n' : Node}

theorem Numbers.congr (h : n.Numbers channel k)
    (hc : n'.localSubscriberCounts.get? channel = n.localSubscriberCounts.get? channel)
    (hl : n'.listeners.get? channel = n.listeners.get? channel) : n'.Numbers channel k := by
  unfold Numbers
  rw [hc, hl]
  exact h

theorem Numbers.getD (h : n.Numbers channel k) : n.localSubscriberCounts.getD channel 0 = k := by
  rcases h with ⟨rfl, hc, -⟩ | ⟨-, hc, -⟩
  · rw [Dict.getD, hc]; rfl
  · rw [Dict.getD, hc]; rfl

theorem Numbers.countUp (h : n.Numbers channel k) :
    ((n.countUp channel).startListener channel).Numbers channel (k + 1) := by
  have hcount : ((n.countUp channel).startListener channel).localSubscriberCounts.get? channel
      = some ((k + 1 : Nat) : Int) := by
    rw [counts_startListener]
    simp [Node.countUp, h.getD]
  refine Or.inr ⟨Nat.succ_pos k, hcount, ?_⟩
  rcases h with ⟨-, -, hl⟩ | ⟨-, -, l, hl, hlive⟩
  · refine ⟨{ task := n.nextTask }, ?_, rfl, rfl, by simp⟩
    simp [Node.startListener, Node.countUp, hl, newListener]
  · refine ⟨l, ?_, hlive⟩
    simp [Node.startListener, Node.countUp, hl, hlive.2.2]

theorem Numbers.countDown (h : n.Numbers channel k) :
    (n.countDown channel).2.Numbers channel (k - 1) := by
  unfold Node.countDown
  rw [h.getD]
  split
  · rename_i hle
    refine Or.inl ⟨by omega, ?_, ?_⟩
    · simp [counts_stopListener]
    · rcases h with ⟨-, -, hl⟩ | ⟨-, -, l, hl, -⟩ <;> simp [stopListener, hl]
  · rename_i hgt
    rcases h with ⟨rfl, -, -⟩ | ⟨-, -, l, hl, hlive⟩
    · exact absurd (by decide) hgt
    · refine Or.inr ⟨by omega, ?_, l, hl, hlive⟩
      simp only [Dict.get?_set, if_true]
      congr 1
      omega

theorem Numbers.countUp_of_ne (h : n.Numbers c k) (hne : c ≠ channel) :
    ((n.countUp channel).startListener channel).Numbers c k := by
  refine h.congr ?_ ?_
  · rw [counts_startListener]
    simp [Node.countUp, hne]
  · exact listeners_startListener_of_ne hne _

theorem Numbers.countDown_of_ne (h : n.Numbers c k) (hne : c ≠ channel) :
    (n.countDown channel).2.Numbers c k := by
  unfold Node.countDown
  split
  · refine h.congr ?_ (listeners_stopListener_of_ne hne _)
    rw [counts_stopListener]
    simp [hne]
  · exact h.congr (by simp [hne]) rfl

/-- Releasing a list of distinct channels takes one off each. -/
theorem Numbers.released : ∀ {l : List Channel} {n : Node} {k : Channel → Nat}, l.Nodup →
    (∀ c, n.Numbers c (k c)) → ∀ c, (n.released l).Numbers c (k c - if c ∈ l then 1 else 0)
  | [], n, k, _, h, c => by simpa [Node.released] using h c
  | channel :: rest, n, k, hnd, h, c => by
    rw [List.nodup_cons] at hnd
    have hstep : ∀ c, (n.countDown channel).2.Numbers c (if c = channel then k c - 1 else k c) := by
      intro c
      split
      · rename_i hc; rw [hc]; exact (h channel).countDown
      · rename_i hc; exact (h c).countDown_of_ne hc
    have := Numbers.released hnd.2 hstep c
    by_cases hc : c = channel
    · subst hc
      simpa [Node.released, hnd.1] using this
    · simpa [Node.released, hc] using this

/-! ## 2. How many connections are subscribed -/

theorem Outbound.subscribedCount (h : n.Outbound n') (c : Channel) :
    n'.subscribedCount c = n.subscribedCount c := by
  refine Dict.count_congr (fun y => ?_)
  have hy := h.conn y
  cases hn : n.registry.byId.get? y with
  | none =>
    rw [hn] at hy
    simp [Option.map_eq_none_iff.mp hy]
  | some conn =>
    rw [hn] at hy
    obtain ⟨conn', hc, hid⟩ := Option.map_eq_some_iff.mp hy
    have hs : conn'.subscriptions = conn.subscriptions := congrArg Prod.snd hid
    simp [hc, hs]

theorem subscriptionsOf_some {x : ConnId} {conn : Connection}
    (h : n.registry.byId.get? x = some conn) : n.subscriptionsOf x = conn.subscriptions.elems := by
  rw [subscriptionsOf, h]

/-- A connection that gets a channel. -/
theorem subscribedCount_subscribe {x : ConnId} (hx : (n.registry.byId.get? x).isSome = true)
    (channel c : Channel) :
    (n.subscribe x channel).subscribedCount c + (if c ∈ n.subscriptionsOf x then 1 else 0)
      = n.subscribedCount c + (if c = channel ∨ c ∈ n.subscriptionsOf x then 1 else 0) := by
  obtain ⟨conn, hconn⟩ := Option.isSome_iff_exists.mp hx
  have h := Dict.count_set_old (fun _ conn => decide (c ∈ conn.subscriptions))
    { conn with subscriptions := conn.subscriptions.add channel } hconn
  simp only [decide_eq_true_eq, OSet.mem_add] at h
  rw [subscriptionsOf_some hconn]
  simp only [Node.subscribe, Registry.subscribe, hconn, subscribedCount]
  exact h

/-- A connection that gives a channel up, or never had it. -/
theorem subscribedCount_unsubscribe (x : ConnId) (channel c : Channel) :
    (n.unsubscribe x channel).subscribedCount c + (if c ∈ n.subscriptionsOf x then 1 else 0)
      = n.subscribedCount c + (if c ≠ channel ∧ c ∈ n.subscriptionsOf x then 1 else 0) := by
  cases hconn : n.registry.byId.get? x with
  | none =>
    simp [subscriptionsOf, hconn, Node.unsubscribe, Registry.unsubscribe, subscribedCount,
      Dict.modify]
  | some conn =>
    have h := Dict.count_set_old (fun _ conn => decide (c ∈ conn.subscriptions))
      { conn with subscriptions := conn.subscriptions.discard channel } hconn
    simp only [decide_eq_true_eq, OSet.mem_discard] at h
    rw [subscriptionsOf_some hconn]
    simp only [Node.unsubscribe, Registry.unsubscribe, hconn, subscribedCount, Dict.modify]
    exact h

/-- A connection that is removed. -/
theorem subscribedCount_remove (x : ConnId) (c : Channel) :
    (n.remove x).subscribedCount c + (if c ∈ n.subscriptionsOf x then 1 else 0)
      = n.subscribedCount c := by
  cases hconn : n.registry.byId.get? x with
  | none =>
    simp [subscriptionsOf, hconn, Node.remove, Registry.remove, subscribedCount]
  | some conn =>
    have h := Dict.count_erase (fun _ conn => decide (c ∈ conn.subscriptions)) hconn
    simp only [decide_eq_true_eq] at h
    rw [subscriptionsOf_some hconn]
    simp only [Node.remove, Registry.remove, hconn, subscribedCount]
    exact h

/-- A new connection, in place of none or of one without subscriptions. -/
theorem subscribedCount_add {conn : Connection} (hs : conn.subscriptions = OSet.empty)
    (hx : n.subscriptionsOf conn.connectionId = []) (c : Channel) :
    (n.add conn).subscribedCount c = n.subscribedCount c := by
  cases hconn : n.registry.byId.get? conn.connectionId with
  | none =>
    have h := Dict.count_set_new (fun _ conn => decide (c ∈ conn.subscriptions)) conn hconn
    simp only [hs, OSet.not_mem_empty, decide_false, Bool.false_eq_true, if_false,
      Nat.add_zero] at h
    exact h
  | some old =>
    have h := Dict.count_set_old (fun _ conn => decide (c ∈ conn.subscriptions)) conn hconn
    have hold : c ∉ old.subscriptions := by
      rw [OSet.mem_def, ← subscriptionsOf_some hconn, hx]
      exact List.not_mem_nil
    simp only [hs, hold, OSet.not_mem_empty, decide_false, Bool.false_eq_true, if_false,
      Nat.add_zero] at h
    exact h

theorem subscribedCount_pos {x : ConnId} (h : c ∈ n.subscriptionsOf x) :
    0 < n.subscribedCount c := by
  refine Dict.count_pos_iff.mpr ?_
  unfold subscriptionsOf at h
  split at h
  · rename_i conn hconn
    exact ⟨x, conn, hconn, decide_eq_true h⟩
  · exact absurd h List.not_mem_nil

theorem subscribedCount_of_registry (h : n'.registry = n.registry) (c : Channel) :
    n'.subscribedCount c = n.subscribedCount c := by
  rw [subscribedCount, h, subscribedCount]

theorem subscriptionsOf_of_registry (h : n'.registry = n.registry) (x : ConnId) :
    n'.subscriptionsOf x = n.subscriptionsOf x := by
  rw [subscriptionsOf, h, subscriptionsOf]

theorem Outbound.subscriptionsOf (h : n.Outbound n') (x : ConnId) :
    n'.subscriptionsOf x = n.subscriptionsOf x := by
  have hx := h.conn x
  cases hn : n.registry.byId.get? x with
  | none =>
    rw [hn] at hx
    simp [Node.subscriptionsOf, hn, Option.map_eq_none_iff.mp hx]
  | some conn =>
    rw [hn] at hx
    obtain ⟨conn', hc, hid⟩ := Option.map_eq_some_iff.mp hx
    have hs : conn'.subscriptions = conn.subscriptions := congrArg Prod.snd hid
    simp [Node.subscriptionsOf, hn, hc, hs]

theorem nodup_subscriptionsOf (n : Node) (x : ConnId) : (n.subscriptionsOf x).Nodup := by
  unfold Node.subscriptionsOf
  split
  · rename_i conn _
    exact conn.subscriptions.nodup
  · exact List.nodup_nil

/-! ## 3. The number is the size of the set plus a drift -/

/-- The manager's numbers exceed the subscribed connections by `drift`. -/
def Tracks (drift : Channel → Nat) (n : Node) : Prop :=
  ∀ c, n.Numbers c (n.subscribedCount c + drift c)

variable {drift : Channel → Nat} {x : ConnId}

theorem Tracks.outbound (h : n.Tracks drift) (ho : n.Outbound n') : n'.Tracks drift := by
  intro c
  rw [ho.subscribedCount]
  exact (h c).congr (by rw [ho.counts]) (by rw [ho.listeners])

/-- The first SUBSCRIBE of a channel by a connection keeps the drift, every other one adds to it. -/
theorem Tracks.attached (h : n.Tracks drift) (hx : (n.registry.byId.get? x).isSome = true)
    (channel : Channel) :
    (n.attached x channel).Tracks (fun c => drift c +
      if c = channel ∧ channel ∈ n.subscriptionsOf x then 1 else 0) := by
  intro c
  have hreg : (n.attached x channel).registry = (n.subscribe x channel).registry :=
    registry_startListener channel _
  have hcount := subscribedCount_subscribe hx channel c
  rw [subscribedCount_of_registry hreg]
  rcases eq_or_ne c channel with rfl | hne
  · have hn : (n.attached x c).Numbers c (n.subscribedCount c + drift c + 1) :=
      (show (n.subscribe x c).Numbers c _ from (h c).congr rfl rfl).countUp
    by_cases hc : c ∈ n.subscriptionsOf x
    · simp only [hc, or_true, if_true, and_self] at hcount ⊢
      rwa [show (n.subscribe x c).subscribedCount c + (drift c + 1)
        = n.subscribedCount c + drift c + 1 by omega]
    · simp only [hc, or_false, if_true, if_false, and_false] at hcount ⊢
      rwa [show (n.subscribe x c).subscribedCount c + (drift c + 0)
        = n.subscribedCount c + drift c + 1 by omega]
  · have hn : (n.attached x channel).Numbers c (n.subscribedCount c + drift c) :=
      (show (n.subscribe x channel).Numbers c _ from (h c).congr rfl rfl).countUp_of_ne hne
    simp only [hne, false_or, false_and, if_false] at hcount ⊢
    rwa [show (n.subscribe x channel).subscribedCount c + (drift c + 0)
      = n.subscribedCount c + drift c by omega]

/-- The UNSUBSCRIBE of a subscribed connection keeps the drift.  That of another one takes from
it, which is harmless while there is a drift, or nothing at all. -/
theorem Tracks.detached (h : n.Tracks drift) (x : ConnId) (channel : Channel)
    (hsafe : channel ∈ n.subscriptionsOf x ∨ 0 < drift channel ∨
      n.subscribedCount channel + drift channel = 0) :
    (n.detached x channel).Tracks (fun c => drift c -
      if c = channel ∧ channel ∉ n.subscriptionsOf x then 1 else 0) := by
  intro c
  have hreg : (n.detached x channel).registry = (n.unsubscribe x channel).registry :=
    registry_countDown channel _
  have hcount := subscribedCount_unsubscribe (n := n) x channel c
  rw [subscribedCount_of_registry hreg]
  rcases eq_or_ne c channel with rfl | hne
  · have hn : (n.detached x c).Numbers c (n.subscribedCount c + drift c - 1) :=
      (show (n.unsubscribe x c).Numbers c _ from (h c).congr rfl rfl).countDown
    by_cases hc : c ∈ n.subscriptionsOf x
    · simp only [hc, ne_eq, not_true_eq_false, false_and, and_false, if_true, if_false]
        at hcount ⊢
      rwa [show (n.unsubscribe x c).subscribedCount c + (drift c - 0)
        = n.subscribedCount c + drift c - 1 by omega]
    · simp only [hc, and_false, if_false, not_false_eq_true, and_self, if_true, false_or]
        at hcount hsafe ⊢
      rwa [show (n.unsubscribe x c).subscribedCount c + (drift c - 1)
        = n.subscribedCount c + drift c - 1 by omega]
  · have hn : (n.detached x channel).Numbers c (n.subscribedCount c + drift c) :=
      (show (n.unsubscribe x channel).Numbers c _ from (h c).congr rfl rfl).countDown_of_ne hne
    simp only [hne, ne_eq, not_false_eq_true, true_and, false_and, if_false] at hcount ⊢
    rwa [show (n.unsubscribe x channel).subscribedCount c + (drift c - 0)
      = n.subscribedCount c + drift c by omega]

theorem registry_released : ∀ (l : List Channel) (n : Node), (n.released l).registry = n.registry
  | [], _ => rfl
  | channel :: rest, n => (registry_released rest _).trans (registry_countDown channel n)

/-- A cleanup gives every channel back once. -/
theorem Tracks.cleaned (h : n.Tracks drift) (x : ConnId) : (n.cleaned x).Tracks drift := by
  have hdead : n.Outbound (n.deadened x) := outbound_updateConn n x (fun _ _ => rfl)
  intro c
  have hreg := registry_released (n.subscriptionsOf x) (n.deadened x)
  have hcount := subscribedCount_remove (n := (n.deadened x).released (n.subscriptionsOf x)) x c
  rw [subscribedCount_of_registry hreg, hdead.subscribedCount, subscriptionsOf_of_registry hreg,
    hdead.subscriptionsOf] at hcount
  have hn : (n.cleaned x).Numbers c
      (n.subscribedCount c + drift c - if c ∈ n.subscriptionsOf x then 1 else 0) := by
    have := Numbers.released (nodup_subscriptionsOf n x) (h.outbound hdead) c
    rw [hdead.subscribedCount] at this
    exact this.congr rfl rfl
  rwa [show (n.cleaned x).subscribedCount c + drift c = n.subscribedCount c + drift c -
    (if c ∈ n.subscriptionsOf x then 1 else 0) by rw [← hcount, Node.cleaned]; omega]

theorem isSome_attached {y : ConnId} (channel : Channel) :
    ((n.attached x channel).registry.byId.get? y).isSome = (n.registry.byId.get? y).isSome := by
  have hreg : (n.attached x channel).registry = (n.subscribe x channel).registry :=
    registry_startListener channel _
  rw [hreg, Node.subscribe, Registry.get_subscribe]
  split
  · rw [Option.isSome_map]
  · rfl

theorem Outbound.isSome {y : ConnId} (h : n.Outbound n') :
    (n'.registry.byId.get? y).isSome = (n.registry.byId.get? y).isSome := by
  rw [← Option.isSome_map (f := Connection.ident), h.conn y, Option.isSome_map]

theorem mem_subscriptionsOf_attached {d : Channel} (hx : (n.registry.byId.get? x).isSome = true)
    (channel : Channel) : d ∈ (n.attached x channel).subscriptionsOf x ↔
      d = channel ∨ d ∈ n.subscriptionsOf x := by
  have hreg : (n.attached x channel).registry = (n.subscribe x channel).registry :=
    registry_startListener channel _
  obtain ⟨conn, hconn⟩ := Option.isSome_iff_exists.mp hx
  have hget : (n.subscribe x channel).registry.byId.get? x
      = some { conn with subscriptions := conn.subscriptions.add channel } := by
    rw [Node.subscribe, Registry.get_subscribe, if_pos rfl, hconn]
    rfl
  rw [subscriptionsOf_of_registry hreg, subscriptionsOf_some hget, subscriptionsOf_some hconn]
  exact OSet.mem_add

end Node

/-! ## 4. Whole frames -/

section Frames

variable {x : ConnId} {n n' : Node} {drift : Channel → Nat}

/-- Attaching channels never leaves a subscriber without its number. -/
theorem NodeRun.tracks_attaches : ∀ {l : List Channel} {n : Node} {drift : Channel → Nat},
    NodeRun x (l.map .attach) n n' → (n.registry.byId.get? x).isSome = true → n.Tracks drift →
      ∃ drift', n'.Tracks drift'
  | [], _, drift, h, _, ht => ⟨drift, ht.outbound (NodeRun.nil_iff.mp h)⟩
  | channel :: _, _, drift, h, hx, ht => by
    cases h with
    | step ho k =>
      rw [← ho.isSome] at hx
      exact tracks_attaches k ((Node.isSome_attached channel).trans hx)
        ((ht.outbound ho).attached hx channel)

/-- Attaching distinct channels the connection did not have keeps the drift. -/
theorem NodeRun.tracks_new_attaches : ∀ {l : List Channel} {n : Node}, l.Nodup →
    (∀ c ∈ l, c ∉ n.subscriptionsOf x) → NodeRun x (l.map .attach) n n' →
      (n.registry.byId.get? x).isSome = true → n.Tracks drift → n'.Tracks drift
  | [], _, _, _, h, _, ht => ht.outbound (NodeRun.nil_iff.mp h)
  | channel :: _, n, hnd, hnew, h, hx, ht => by
    rw [List.nodup_cons] at hnd
    cases h with
    | @step _ m _ _ _ ho k =>
      rw [← ho.isSome] at hx
      have hm : channel ∉ m.subscriptionsOf x := by
        rw [ho.subscriptionsOf]
        exact hnew channel List.mem_cons_self
      have hsame : (m.attached x channel).Tracks drift := by
        have := (ht.outbound ho).attached hx channel
        simpa [hm] using this
      refine tracks_new_attaches hnd.2 (fun c hc => ?_) k
        ((Node.isSome_attached channel).trans hx) hsame
      rw [Node.change, Node.mem_subscriptionsOf_attached hx, ho.subscriptionsOf]
      rintro (rfl | hcn)
      · exact hnd.1 hc
      · exact hnew c (List.mem_cons_of_mem _ hc) hcn

/-- The end of a turn keeps the drift. -/
theorem NodeRun.tracks_clean {clean : List Change} (hc : clean = [] ∨ clean = [Change.clean])
    (h : NodeRun x clean n n') (ht : n.Tracks drift) : n'.Tracks drift := by
  rcases hc with rfl | rfl
  · exact ht.outbound (NodeRun.nil_iff.mp h)
  · obtain ⟨m, ho, hk⟩ := NodeRun.singleton_iff.mp h
    exact ((ht.outbound ho).cleaned x).outbound hk

/-- The UNSUBSCRIBE of a turn, if there is one. -/
theorem NodeRun.tracks_detach {channel : Channel} (h : NodeRun x [.detach channel] n n')
    (ht : n.Tracks drift) (hsafe : channel ∈ n.subscriptionsOf x ∨ 0 < drift channel ∨
      n.subscribedCount channel + drift channel = 0) :
    n'.Tracks (fun c => drift c -
      if c = channel ∧ channel ∉ n.subscriptionsOf x then 1 else 0) := by
  obtain ⟨m, ho, hk⟩ := NodeRun.singleton_iff.mp h
  rw [← ho.subscriptionsOf, ← ho.subscribedCount] at hsafe
  have := ((ht.outbound ho).detached x channel hsafe).outbound hk
  rwa [ho.subscriptionsOf] at this

end Frames

/-! ## 5. Events, one after the other -/

/-- What happens to a process, each event handled to its end. -/
inductive Event
  /-- A socket is accepted and greeted; its connection id is a new one. -/
  | connect (s : Socket)
  /-- The handler of a connection gets a frame, or loses its peer. -/
  | input (x : ConnId) (input : Received)
  | publish (call : PublishCall)
  | listener (channel : Channel) (a : ListenerAct)
  | reap
  | sender (x : ConnId)
  /-- The heartbeat, the sender or a termination sets the state of a connection. -/
  | setState (x : ConnId) (state : ConnectionState)

/-- What an event comes back with, and the gateway after it. -/
def handle (env : Env) (g : Gateway) : Event → Except Exn Unit × Gateway
  | .connect s =>
    match g.node.registry.byId.get? s.connectionId with
    | some _ => (.ok (), g)
    | none => (((handshake env s).run g).1.map (fun _ => ()), ((handshake env s).run g).2)
  | .input x input =>
    match g.node.registry.byId.get? x with
    | none => (.ok (), g)
    | some conn =>
      (((turn env (peerOf x conn) input).run g).1.map (fun _ => ()),
        ((turn env (peerOf x conn) input).run g).2)
  | .publish call =>
    (((publishMessage env call.channel call.messageId call.payload).run g.redis).1.map
        (fun _ => ()),
      setRedis ((publishMessage env call.channel call.messageId call.payload).run g.redis).2 g)
  | .listener channel a => (.ok (), listenerStep env channel a g)
  | .reap => (.ok (), reap env g)
  | .sender x =>
    (.ok (), setNode (g.node.updateConn x (fun conn => (conn.senderStep env).getD conn)) g)
  | .setState x state =>
    (.ok (), setNode (g.node.updateConn x (fun conn => { conn with state := state })) g)

/-- The gateway after an event. -/
def handleEvent (env : Env) (g : Gateway) (e : Event) : Gateway := (handle env g e).2

/-- A process that has just started, on an empty Redis that is up. -/
def Gateway.start (trims : List Nat) (socketFaults : List Bool) : Gateway :=
  ⟨{ ageTrims := trims }, { socketFaults := socketFaults }⟩

/-- The event ends without an exception of Redis. -/
def RedisUp (env : Env) (g : Gateway) (e : Event) : Prop :=
  ∀ err, (handle env g e).1 = .error err → ¬ err.FromRedis

instance (env : Env) (g : Gateway) (e : Event) : Decidable (RedisUp env g e) :=
  match h : (handle env g e).1 with
  | .ok _ => isTrue (fun _ he => absurd (h.symm.trans he) (by simp))
  | .error err => decidable_of_iff (¬ err.FromRedis)
      ⟨fun hn _ he => Except.error.inj (h.symm.trans he) ▸ hn, fun hall => hall err h⟩

/-- An UNSUBSCRIBE takes nothing that belongs to others: the connection is subscribed, or nobody
is, or the number exceeds the subscribers. -/
def SparesOthers (g : Gateway) : Event → Prop
  | .input x input => ∀ channel ∈ input.unsubscribes,
      channel ∈ g.node.subscriptionsOf x ∨ g.node.subscribedCount channel = 0 ∨
        (g.node.subscribedCount channel : Int) < g.node.localSubscriberCounts.getD channel 0
  | _ => True

/-- A connection only unsubscribes what it is subscribed to. -/
def UnsubscribesOwn (g : Gateway) : Event → Prop
  | .input x input => ∀ channel ∈ input.unsubscribes, channel ∈ g.node.subscriptionsOf x
  | _ => True

/-- A connection only subscribes, by SUBSCRIBE or RESUME, to what it is not subscribed to. -/
def SubscribesNew (env : Env) (g : Gateway) : Event → Prop
  | .input x input => ∀ conn ∈ g.node.registry.byId.get? x,
      ∀ channel ∈ attachesOf env (peerOf x conn) g.redis input, channel ∉ g.node.subscriptionsOf x
  | _ => True

instance (g : Gateway) : ∀ e, Decidable (SparesOthers g e)
  | .input _ _ => inferInstanceAs (Decidable (∀ _ ∈ _, _))
  | .connect _ | .publish _ | .listener _ _ | .reap | .sender _ | .setState _ _ => isTrue trivial

instance (g : Gateway) : ∀ e, Decidable (UnsubscribesOwn g e)
  | .input _ _ => inferInstanceAs (Decidable (∀ _ ∈ _, _))
  | .connect _ | .publish _ | .listener _ _ | .reap | .sender _ | .setState _ _ => isTrue trivial

instance (env : Env) (g : Gateway) : ∀ e, Decidable (SubscribesNew env g e)
  | .input _ _ => inferInstanceAs (Decidable (∀ _ ∈ _, ∀ _ ∈ _, _))
  | .connect _ | .publish _ | .listener _ _ | .reap | .sender _ | .setState _ _ => isTrue trivial

section Steps

variable {env : Env} {g : Gateway} {drift : Channel → Nat}

/-- A handshake leaves the numbers alone; the connection it registers has no subscriptions. -/
theorem handshake_tracks {s : Socket} (hf : g.redis.faults = [])
    (hnew : g.node.registry.byId.get? s.connectionId = none) (h : g.node.Tracks drift) :
    ((handshake env s).run g).2.redis.faults = [] ∧
      ((handshake env s).run g).2.node.Tracks drift := by
  -- along the handshake the connection is absent or has no subscriptions
  let I : Gateway → Prop := fun g => g.redis.faults = [] ∧ g.node.Tracks drift ∧
    g.node.subscriptionsOf s.connectionId = []
  obtain ⟨tenantId, hauth⟩ := s.exists_tenant
  have hI : Effect.Invariant env s.connectionId tenantId
      ⟨false, true, fun _ => False, fun _ _ => True⟩ I := by
    rintro a b ⟨h1, h2, h3⟩ e
    have hout : ∀ {n : Node}, a.node.Outbound n → I (setNode n a) := fun ho =>
      ⟨h1, h2.outbound ho, (ho.subscriptionsOf _).trans h3⟩
    cases e with
    | redis hs => exact ⟨hs.up h1, h2, h3⟩
    | write frame _ => exact hout (Node.outbound_sendText _ frame _)
    | bookkeeping f hf => exact hout (Node.outbound_updateConn _ _ (fun c _ => hf.ident c))
    | replay _ _ hr _ _ => exact absurd hr (by simp)
    | subscribe _ _ ht => exact absurd ht id
    | countUp _ _ ht => exact absurd ht id
    | startListener _ _ ht => exact absurd ht id
    | unsubscribe _ ht => exact absurd ht id
    | countDown _ ht => exact absurd ht id
    | add sessionId userId _ =>
      refine ⟨h1, fun c => ?_, ?_⟩
      · simp only [setNode]
        rw [Node.subscribedCount_add rfl h3]
        exact (h2 c).congr rfl rfl
      · have hx : s.connectionId =
            (newConnection s.connectionId sessionId tenantId userId).connectionId := rfl
        simp only [setNode, Node.subscriptionsOf, Node.add, Registry.get_add]
        rw [if_pos hx]
        rfl
    | remove _ =>
      refine ⟨h1, fun c => ?_, ?_⟩
      · have hc := Node.subscribedCount_remove (n := a.node) s.connectionId c
        rw [h3] at hc
        simp only [List.not_mem_nil, if_false, Nat.add_zero] at hc
        simp only [setNode]
        rw [hc]
        exact (h2 c).congr rfl rfl
      · simp only [setNode, Node.subscriptionsOf, Node.remove, Registry.get_remove, if_true]
    | look => exact ⟨h1, h2, h3⟩
  have hkeeps := handshake_keeps (s := s) hI rfl hauth
  have hstart : I g := ⟨hf, h, by rw [Node.subscriptionsOf, hnew]⟩
  have hend : I ((handshake env s).run g).2 := by
    have htop : (handshake env s).Keeps I (fun _ _ => True) :=
      hkeeps.mono (fun _ _ _ _ => trivial)
    exact (Prog.run_keeps (fun _ => trivial) (fun _ _ _ _ _ => trivial) htop hstart).1
  exact ⟨hend.1, hend.2.1⟩

/-- `publish_message` finds Redis up and leaves it up. -/
theorem publishMessage_up (env : Env) (call : PublishCall) {r : Redis} (hf : r.faults = []) :
    ((publishMessage env call.channel call.messageId call.payload).run r).2.faults = [] := by
  have hup : ∀ {α : Type} (f : Redis → Except Exn α × Redis),
      (∀ r, (f r).2.faults = r.faults) →
      (command f).Keeps (fun r => r.faults = []) (fun _ _ => True) := by
    intro α f h
    refine Prog.keeps_atomic (fun r hr => ⟨?_, trivial⟩)
    rw [attempt, hr]
    exact (h r).trans hr
  have hkeeps : (publishMessage env call.channel call.messageId call.payload).Keeps
      (fun r => r.faults = []) (fun _ _ => True) := by
    refine (hup _ fun r => rfl).bind fun sequence =>
      ((hup _ fun r => rfl).bind fun _ => hup _ fun r => ?_).bind fun _ =>
        (hup _ fun r => rfl).bind fun _ => Prog.keeps_ret _
    unfold xtrim
    split <;> rfl
  exact (Prog.run_keeps (fun _ => trivial) (fun _ _ _ _ _ => trivial) hkeeps hf).1

/-- Setting the phase of a live listener, to anything but its end, keeps the numbers. -/
theorem Node.Tracks.setPhase {channel : Channel} {l : Listener} {phase : ListenerPhase}
    (h : g.node.Tracks drift) (hl : g.node.listeners.get? channel = some l)
    (hs : l.stopped = false) (hc : l.cancelled = false) (hp : phase ≠ .done) :
    (Gateway.setPhase channel l phase g).node.Tracks drift := by
  intro c
  have hc' := h c
  rcases eq_or_ne c channel with rfl | hne
  · rcases hc' with ⟨-, -, hnone⟩ | ⟨hk, hcount, -⟩
    · exact absurd (hnone.symm.trans hl) (by simp)
    · refine Or.inr ⟨hk, hcount, { l with phase := phase }, ?_, hs, hc, hp⟩
      simp [Gateway.setPhase, setNode]
  · exact hc'.congr rfl (by simp [Gateway.setPhase, setNode, hne])

/-- A listener never stops by itself. -/
theorem listenerStep_tracks (env : Env) (channel : Channel) (a : ListenerAct) (h : g.node.Tracks drift) :
    (listenerStep env channel a g).redis.faults = g.redis.faults ∧
      (listenerStep env channel a g).node.Tracks drift := by
  rcases listenerStep_cases env channel a g with heq | ⟨l, hl, hs, hc, hcase⟩
  · rw [heq]; exact ⟨rfl, h⟩
  rcases hcase with ⟨-, -, heq⟩ | ⟨-, -, m, rest, -, heq⟩ | ⟨-, -, heq⟩ | ⟨-, -, heq⟩ | ⟨-, -, heq⟩
  · rw [heq]; exact ⟨rfl, h.setPhase (g := addSubscriber env channel l.task g) hl hs hc (by simp)⟩
  · rw [heq]; exact ⟨rfl, h.outbound (Node.outbound_deliverLocal env channel m _)⟩
  · rw [heq]; exact ⟨rfl, h.setPhase hl hs hc (by simp)⟩
  · rw [heq]; exact ⟨rfl, h.setPhase (g := dropSubscriber env l.task g) hl hs hc (by simp)⟩
  · rw [heq]; exact ⟨rfl, h.setPhase hl hs hc (by simp)⟩

/-- An event that is not a frame leaves the numbers alone. -/
theorem background_tracks (env : Env) {e : Event} (he : ∀ x input, e ≠ .input x input)
    (hf : g.redis.faults = []) (h : g.node.Tracks drift) :
    (handleEvent env g e).redis.faults = [] ∧ (handleEvent env g e).node.Tracks drift := by
  unfold handleEvent
  cases e with
  | connect s =>
    cases hx : g.node.registry.byId.get? s.connectionId with
    | some _ => simp only [handle, hx]; exact ⟨hf, h⟩
    | none => simp only [handle, hx]; exact handshake_tracks hf hx h
  | input x input => exact absurd rfl (he x input)
  | publish call => exact ⟨publishMessage_up env call hf, h⟩
  | listener channel a =>
    obtain ⟨h1, h2⟩ := listenerStep_tracks env channel a h
    exact ⟨h1.trans hf, h2⟩
  | reap =>
    simp only [handle, reap]
    split
    · exact ⟨hf, h⟩
    · exact ⟨hf, h⟩
  | sender x =>
    exact ⟨hf, h.outbound (Node.outbound_updateConn _ x (fun conn _ => conn.ident_senderStep env))⟩
  | setState x state => exact ⟨hf, h.outbound (Node.outbound_updateConn _ x (fun _ _ => rfl))⟩

/-- The frame of a registered connection, as changes of the process. -/
theorem input_run {x : ConnId} {input : Received} {conn : Connection}
    (hx : g.node.registry.byId.get? x = some conn) (hf : g.redis.faults = [])
    (hup : RedisUp env g (.input x input)) :
    (handleEvent env g (.input x input)).redis.faults = [] ∧
    ∃ l clean m n, l <+: attachesOf env (peerOf x conn) g.redis input ∧
      (clean = [] ∨ clean = [Change.clean]) ∧ NodeRun x (l.map .attach) g.node m ∧
      NodeRun x (input.unsubscribes.toList.map .detach) m n ∧
      NodeRun x clean n (handleEvent env g (.input x input)).node := by
  unfold RedisUp handleEvent at *
  simp only [handle, hx] at hup ⊢
  obtain ⟨l, clean, hl, hc, hrun, hside⟩ := turn_run env (peerOf x conn) input hf
    (fun e he => hup e (by rw [he]; rfl))
  obtain ⟨n, hn, hclean⟩ := hrun.split
  obtain ⟨m, hm, hdetach⟩ := hn.split
  exact ⟨hside.up hf, l, clean, m, n, hl, hc, hm, hdetach, hclean⟩

/-- A frame of a connection that is not there does nothing. -/
theorem handleEvent_unregistered {x : ConnId} (input : Received)
    (hx : g.node.registry.byId.get? x = none) : handleEvent env g (.input x input) = g := by
  simp only [handleEvent, handle, hx]

/-! ## 6. Every subscriber has a listener -/

/-- No drift is negative: the condition of an UNSUBSCRIBE, step by step. -/
theorem sparing_step (e : Event) (h : g.redis.faults = [] ∧ ∃ drift, g.node.Tracks drift)
    (hok : RedisUp env g e ∧ SparesOthers g e) :
    (handleEvent env g e).redis.faults = [] ∧
      ∃ drift, (handleEvent env g e).node.Tracks drift := by
  obtain ⟨hf, drift, ht⟩ := h
  by_cases he : ∃ x input, e = .input x input
  · obtain ⟨x, input, rfl⟩ := he
    cases hx : g.node.registry.byId.get? x with
    | none => rw [handleEvent_unregistered input hx]; exact ⟨hf, drift, ht⟩
    | some conn =>
      obtain ⟨hf', l, clean, m, n, hl, hc, hm, hn, hclean⟩ := input_run hx hf hok.1
      refine ⟨hf', ?_⟩
      cases hu : input.unsubscribes with
      | none =>
        obtain ⟨drift', ht'⟩ := hm.tracks_attaches (by rw [hx]; rfl) ht
        rw [hu] at hn
        exact ⟨drift', hclean.tracks_clean hc (ht'.outbound (NodeRun.nil_iff.mp hn))⟩
      | some channel =>
        -- a frame that detaches attaches nothing
        rw [attachesOf_unsubscribes hu] at hl
        obtain rfl := List.prefix_nil.mp hl
        have ho := NodeRun.nil_iff.mp hm
        rw [hu] at hn
        refine ⟨_, hclean.tracks_clean hc (hn.tracks_detach (ht.outbound ho) ?_)⟩
        rw [ho.subscriptionsOf, ho.subscribedCount]
        have hsafe := hok.2 channel hu
        rw [(ht channel).getD] at hsafe
        rcases hsafe with hsub | hsafe
        · exact Or.inl hsub
        · exact Or.inr (by omega)
  · obtain ⟨h1, h2⟩ := background_tracks env (e := e)
      (fun x input heq => he ⟨x, input, heq⟩) hf ht
    exact ⟨h1, drift, h2⟩

end Steps

theorem tracks_start (trims : List Nat) (socketFaults : List Bool) :
    (Gateway.start trims socketFaults).node.Tracks (fun _ => 0) :=
  fun _ => Or.inl ⟨rfl, rfl, rfl⟩

/-- **A subscribed connection has a listener**, in every run in which no UNSUBSCRIBE takes away a
number that belongs to another connection. -/
theorem subscriber_has_listener (env : Env) (trims : List Nat) (socketFaults : List Bool)
    (events : List Event)
    (hup : Along (handleEvent env) (RedisUp env) (Gateway.start trims socketFaults) events)
    (hspares : Along (handleEvent env) SparesOthers (Gateway.start trims socketFaults) events)
    (x : ConnId) (conn : Connection) (channel : Channel)
    (hx : (runAll (handleEvent env) (Gateway.start trims socketFaults) events).node.registry.byId.get?
      x = some conn)
    (hsub : channel ∈ conn.subscriptions) :
    ∃ l, (runAll (handleEvent env) (Gateway.start trims socketFaults) events).node.listeners.get?
        channel = some l ∧ l.stopped = false ∧ l.cancelled = false := by
  obtain ⟨-, drift, ht⟩ := runAll_invariant
    (fun g e (hg : g.redis.faults = [] ∧ ∃ drift, g.node.Tracks drift)
      (hok : RedisUp env g e ∧ SparesOthers g e) => sparing_step e hg hok) events _
    ⟨rfl, _, tracks_start trims socketFaults⟩ (hup.and hspares)
  rcases ht channel with ⟨hzero, -⟩ | ⟨-, -, l, hl, hlive⟩
  · have : 0 < Node.subscribedCount channel _ :=
      Node.subscribedCount_pos (by rw [Node.subscriptionsOf_some hx]; exact hsub)
    omega
  · exact ⟨l, hl, hlive.1, hlive.2.1⟩

/-- Connection `x` of tenant `a` says hello. -/
def hello (x : ConnId) : Event :=
  .connect ⟨x, "s-" ++ x, some (ClientFrame.connect "token" none).toJson, .ok "a"⟩

/-- The reference client behind `x` sends a frame. -/
def sends (x : ConnId) (frame : ClientFrame) : Event := .input x (.json frame.toJson)

/-- Two connections of one tenant: the first subscribes, the second unsubscribes what it never
subscribed to, and the first is left without a listener. -/
theorem unsubscribe_takes_listener_away :
    let run := [hello "x", hello "y", sends "x" (.subscribe "t-a:c"), sends "y" (.unsubscribe "t-a:c")]
    let g := runAll (handleEvent (.plain {})) (Gateway.start [] []) run
    Along (handleEvent (.plain {})) (RedisUp (.plain {})) (Gateway.start [] []) run ∧
      (∃ conn ∈ g.node.registry.byId.get? "x", conn.state = .active ∧
        "t-a:c" ∈ conn.subscriptions) ∧
      g.node.listeners.get? "t-a:c" = none := by
  decide +kernel

/-- The same two connections, each unsubscribing its own. -/
theorem subscriber_has_listener_two :
    ∃ conn, (runAll (handleEvent (.plain {})) (Gateway.start [] []) [hello "x", hello "y",
        sends "x" (.subscribe "t-a:c"), sends "y" (.subscribe "t-a:c"),
        sends "y" (.unsubscribe "t-a:c")]).node.registry.byId.get? "x" = some conn ∧
      "t-a:c" ∈ conn.subscriptions ∧
      ∃ l, (runAll (handleEvent (.plain {})) (Gateway.start [] []) [hello "x", hello "y",
          sends "x" (.subscribe "t-a:c"), sends "y" (.subscribe "t-a:c"),
          sends "y" (.unsubscribe "t-a:c")]).node.listeners.get? "t-a:c" = some l ∧
        l.stopped = false ∧ l.cancelled = false := by
  have hconn : ∃ conn ∈ (runAll (handleEvent (.plain {})) (Gateway.start [] []) [hello "x",
      hello "y", sends "x" (.subscribe "t-a:c"), sends "y" (.subscribe "t-a:c"),
      sends "y" (.unsubscribe "t-a:c")]).node.registry.byId.get? "x",
      "t-a:c" ∈ conn.subscriptions := by decide +kernel
  obtain ⟨conn, hx, hsub⟩ := hconn
  exact ⟨conn, hx, hsub, subscriber_has_listener (.plain {}) [] [] _ (by decide +kernel)
    (by decide +kernel) "x" conn "t-a:c" hx hsub⟩

/-! ## 7. The number is the number of subscribers -/

section Exact

variable {env : Env} {g : Gateway}

/-- Subscriptions that are new and unsubscriptions that are one's own keep the drift at zero. -/
theorem exact_step (e : Event) (h : g.redis.faults = [] ∧ g.node.Tracks (fun _ => 0))
    (hok : (RedisUp env g e ∧ UnsubscribesOwn g e) ∧ SubscribesNew env g e) :
    (handleEvent env g e).redis.faults = [] ∧
      (handleEvent env g e).node.Tracks (fun _ => 0) := by
  obtain ⟨hf, ht⟩ := h
  by_cases he : ∃ x input, e = .input x input
  · obtain ⟨x, input, rfl⟩ := he
    cases hx : g.node.registry.byId.get? x with
    | none => rw [handleEvent_unregistered input hx]; exact ⟨hf, ht⟩
    | some conn =>
      obtain ⟨hf', l, clean, m, n, hl, hc, hm, hn, hclean⟩ := input_run hx hf hok.1.1
      refine ⟨hf', hclean.tracks_clean hc ?_⟩
      cases hu : input.unsubscribes with
      | none =>
        have hnew : ∀ c ∈ l, c ∉ g.node.subscriptionsOf x :=
          fun c hcl => hok.2 conn hx c (hl.subset hcl)
        have hnd : l.Nodup := (nodup_attachesOf env (peerOf x conn) g.redis input).sublist hl.sublist
        rw [hu] at hn
        exact (hm.tracks_new_attaches hnd hnew (by rw [hx]; rfl) ht).outbound
          (NodeRun.nil_iff.mp hn)
      | some channel =>
        rw [attachesOf_unsubscribes hu] at hl
        obtain rfl := List.prefix_nil.mp hl
        have ho := NodeRun.nil_iff.mp hm
        have hmem : channel ∈ m.subscriptionsOf x := by
          rw [ho.subscriptionsOf]
          exact hok.1.2 channel hu
        rw [hu] at hn
        simpa [hmem] using hn.tracks_detach (ht.outbound ho) (Or.inl hmem)
  · exact background_tracks env (fun x input heq => he ⟨x, input, heq⟩) hf ht

end Exact

/-- **The manager's number is the number of subscribed connections, and the last one to leave stops
the listener**, in every run in which connections only unsubscribe what they are subscribed to and
only subscribe to what they are not. -/
theorem counts_are_exact (env : Env) (trims : List Nat) (socketFaults : List Bool)
    (events : List Event)
    (hup : Along (handleEvent env) (RedisUp env) (Gateway.start trims socketFaults) events)
    (hown : Along (handleEvent env) UnsubscribesOwn (Gateway.start trims socketFaults) events)
    (hnew : Along (handleEvent env) (SubscribesNew env) (Gateway.start trims socketFaults) events)
    (channel : Channel) :
    let n := (runAll (handleEvent env) (Gateway.start trims socketFaults) events).node
    n.localSubscriberCounts.get? channel
        = (if n.subscribedCount channel = 0 then none else some (n.subscribedCount channel : Int)) ∧
      (n.subscribedCount channel = 0 → n.listeners.get? channel = none) := by
  intro n
  obtain ⟨-, ht⟩ := runAll_invariant
    (fun g e (hg : g.redis.faults = [] ∧ g.node.Tracks (fun _ => 0))
      (hok : (RedisUp env g e ∧ UnsubscribesOwn g e) ∧ SubscribesNew env g e) =>
        exact_step e hg hok) events _
    ⟨rfl, tracks_start trims socketFaults⟩ ((hup.and hown).and hnew)
  rcases ht channel with ⟨hzero, hcount, hl⟩ | ⟨hpos, hcount, -⟩
  · rw [Nat.add_zero] at hzero
    rw [if_pos hzero]
    exact ⟨hcount, fun _ => hl⟩
  · rw [Nat.add_zero] at hpos hcount
    rw [if_neg (Nat.pos_iff_ne_zero.mp hpos)]
    exact ⟨hcount, fun h0 => absurd h0 (Nat.pos_iff_ne_zero.mp hpos)⟩

/-- What the reference client does when it comes back: RESUME, then SUBSCRIBE.  The one subscriber
is counted twice, where either frame alone counts it once, and when it has left the count and the
listener stay. -/
theorem resume_then_subscribe_counts_twice :
    let before := [.publish ⟨"t-a:c", "m", .null⟩, hello "x"]
    let resume := sends "x" (.resume "s-x" [("t-a:c", 1)])
    let subscribe := sends "x" (.subscribe "t-a:c")
    let node := fun events : List Event =>
      (runAll (handleEvent (.plain {})) (Gateway.start [] []) (before ++ events)).node
    let run := [resume, subscribe, .input "x" .closed]
    Along (handleEvent (.plain {})) (RedisUp (.plain {})) (Gateway.start [] []) (before ++ run) ∧
      Along (handleEvent (.plain {})) UnsubscribesOwn (Gateway.start [] []) (before ++ run) ∧
      (node [resume]).localSubscriberCounts.get? "t-a:c" = some 1 ∧
      (node [subscribe]).localSubscriberCounts.get? "t-a:c" = some 1 ∧
      (node [resume, subscribe]).localSubscriberCounts.get? "t-a:c" = some 2 ∧
      (node [resume, subscribe]).subscribedCount "t-a:c" = 1 ∧
      (node run).subscribedCount "t-a:c" = 0 ∧
      (node run).localSubscriberCounts.get? "t-a:c" = some 1 ∧
      ((node run).listeners.get? "t-a:c").isSome = true := by
  decide +kernel

/-- Two subscribers, of which one leaves by UNSUBSCRIBE and the other by closing its socket. -/
theorem counts_are_exact_two :
    let n := (runAll (handleEvent (.plain {})) (Gateway.start [] []) [hello "x", hello "y",
      sends "x" (.subscribe "t-a:c"), sends "y" (.resume "s-y" [("t-a:c", 1)]),
      sends "y" (.unsubscribe "t-a:c"), .input "x" .closed]).node
    n.localSubscriberCounts.get? "t-a:c"
        = (if n.subscribedCount "t-a:c" = 0 then none else some (n.subscribedCount "t-a:c" : Int)) ∧
      (n.subscribedCount "t-a:c" = 0 → n.listeners.get? "t-a:c" = none) :=
  counts_are_exact (.plain {}) [] [] _ (by decide +kernel) (by decide +kernel)
    (by decide +kernel) "t-a:c"

end Relay
