/-
# `deliver_local`, subscriber by subscriber

`deliver_local` is a loop over the subscribers of a channel.  It skips those that are not ACTIVE, and
an exception of one `enqueue` is caught inside the loop, so that the others are still served.  A
Python set is iterated in no particular order.

`deliverLocalWith` is the loop for any payload and sequence, over any order of the subscribers, with
the list it returns.  `deliverLocal`, which the rest of the development uses, is its effect for a
MESSAGE frame.

* `fanout_each`: what becomes of a connection is decided by that connection alone, and the list is of
  those that refused.
-/
import Mathlib
import Relay.Fanout

namespace Relay

/-! ## 1. The loop -/

namespace Node

/-- The body of the loop: the node, and the ids in `disconnected` so far. -/
def deliverEach (env : Env) (channel : Channel) (payload : ServerFrame) (sequence : Option Int)
    (out : Node × List ConnId) (x : ConnId) : Node × List ConnId :=
  match out.1.registry.byId.get? x with
  | none => out
  | some conn =>
    if conn.state ≠ .active then out
    else
      match conn.enqueue env payload .normal (some channel) sequence with
      | .ok conn' => (out.1.updateConn x (fun _ => conn'), out.2)
      | .error _ =>
        ({ out.1 with terminating := out.1.terminating ++ [x] }, out.2 ++ [conn.connectionId])

/-- `deliver_local`, when the set of subscribers is iterated in the given order. -/
def deliverLocalWith (env : Env) (channel : Channel) (payload : ServerFrame)
    (sequence : Option Int) (order : List ConnId) (n : Node) : Node × List ConnId :=
  order.foldl (deliverEach env channel payload sequence) (n, [])

theorem deliverEach_message (env : Env) (channel : Channel) (m : MessageFrame)
    (out : Node × List ConnId) (x : ConnId) :
    (deliverEach env channel (.message m) (some m.sequence) out x).1 =
      out.1.deliverTo env channel m x := by
  unfold deliverEach deliverTo
  cases out.1.registry.byId.get? x with
  | none => rfl
  | some conn =>
    by_cases hact : conn.state = .active
    · simp only [hact, ne_eq, not_true_eq_false, if_false, if_true]
      cases conn.enqueue env (.message m) .normal (some channel) (some m.sequence) <;> rfl
    · simp only [hact, ne_eq, not_false_eq_true, if_true, if_false]

/-- The loop over MESSAGE frames that the listener tasks run. -/
theorem deliverLocalWith_message (env : Env) (channel : Channel) (m : MessageFrame) (n : Node) :
    (n.deliverLocalWith env channel (.message m) (some m.sequence)
      (n.registry.localSubscribers channel)).1 = n.deliverLocal env channel m := by
  have hfold : ∀ (l : List ConnId) (out : Node × List ConnId),
      (l.foldl (deliverEach env channel (.message m) (some m.sequence)) out).1 =
        l.foldl (deliverTo env channel m) out.1 := by
    intro l
    induction l with
    | nil => exact fun _ => rfl
    | cons x l ih =>
      intro out
      rw [List.foldl_cons, List.foldl_cons, ih, deliverEach_message]
  exact hfold _ (n, [])

end Node

/-! ## 2. One connection -/

namespace Connection

/-- An ACTIVE connection over its limits: `enqueue` raises. -/
def refuses (env : Env) (payload : ServerFrame) (conn : Connection) : Bool :=
  decide (conn.state = .active) && conn.overLimit env (env.wireSize payload)

/-- The connection after its turn in the loop. -/
def served (env : Env) (channel : Channel) (payload : ServerFrame) (sequence : Option Int)
    (conn : Connection) : Connection :=
  if conn.state = .active ∧ conn.overLimit env (env.wireSize payload) = false then
    conn.put ⟨payload, env.wireSize payload, .normal, some channel, sequence⟩
  else conn

/-- `enqueue` of a NORMAL frame, by the test. -/
theorem enqueue_normal_eq (env : Env) (payload : ServerFrame) (channel : Option Channel)
    (sequence : Option Int) (conn : Connection) :
    conn.enqueue env payload .normal channel sequence =
      if conn.overLimit env (env.wireSize payload) = true then .error .slowConsumer
      else .ok (conn.put ⟨payload, env.wireSize payload, .normal, channel, sequence⟩) := by
  unfold enqueue
  rfl

end Connection

namespace Node

open Connection

section Loop

variable {env : Env} {channel : Channel} {payload : ServerFrame} {sequence : Option Int}

/-- The connection of `x`, if it refuses the frame. -/
def refuser (env : Env) (payload : ServerFrame) (n : Node) (x : ConnId) : Option Connection :=
  (n.registry.byId.get? x).filter (refuses env payload)

/-- The node after the turn of `x`. -/
def afterTurn (env : Env) (channel : Channel) (payload : ServerFrame) (sequence : Option Int)
    (n : Node) (x : ConnId) : Node :=
  { n with
    registry := n.registry.updateConn x (served env channel payload sequence)
    terminating := n.terminating ++ ((n.refuser env payload x).map (fun _ => x)).toList }

/-- The turn of `x`: its connection is served, and its id is returned if it refuses. -/
theorem deliverEach_eq (n : Node) (gone : List ConnId) (x : ConnId) :
    deliverEach env channel payload sequence (n, gone) x =
      (n.afterTurn env channel payload sequence x,
        gone ++ ((n.refuser env payload x).map Connection.connectionId).toList) := by
  unfold deliverEach afterTurn refuser Registry.updateConn
  cases hx : n.registry.byId.get? x with
  | none =>
    rw [Dict.modify_self (fun v hv => by rw [hx] at hv; nomatch hv)]
    simp
  | some conn =>
    have hself : ∀ {f : Connection → Connection}, (f conn = conn) →
        n.registry.byId.modify x f = n.registry.byId := fun hf => Dict.modify_self (fun v hv => by
      rw [hx] at hv
      rw [← Option.some.inj hv, hf])
    simp only [enqueue_normal_eq, Option.filter_some]
    by_cases hact : conn.state = .active
    · by_cases hover : conn.overLimit env (env.wireSize payload) = true
      · rw [hself (by simp [served, hover])]
        simp [hact, hover, refuses]
      · simp only [hact, hover, refuses, ne_eq, not_true_eq_false, if_false, decide_true,
          Bool.true_and, Bool.false_eq_true, updateConn, Registry.updateConn, Option.map_none,
          Option.toList_none, List.append_nil]
        rw [Dict.modify_congr (fun v hv => ?_)]
        rw [hx] at hv
        rw [← Option.some.inj hv]
        simp [served, hact, hover]
    · rw [hself (by simp [served, hact])]
      simp [hact, refuses]

/-- A turn does not change what another connection will do. -/
theorem refuser_afterTurn {n : Node} {x y : ConnId} (hne : y ≠ x) :
    (n.afterTurn env channel payload sequence x).refuser env payload y =
      n.refuser env payload y := by
  rw [refuser, refuser, afterTurn, Registry.get_updateConn, if_neg hne]

/-- The whole loop, over subscribers that are listed once each. -/
theorem foldl_deliverEach : ∀ {order : List ConnId} (n : Node) (gone : List ConnId), order.Nodup →
    order.foldl (deliverEach env channel payload sequence) (n, gone) =
      ({ n with
          registry := order.foldl (fun reg x =>
            reg.updateConn x (served env channel payload sequence)) n.registry
          terminating := n.terminating ++
            order.filter (fun x => (n.refuser env payload x).isSome) },
        gone ++ (order.filterMap (n.refuser env payload)).map Connection.connectionId)
  | [], n, gone, _ => by simp
  | x :: order, n, gone, hnd => by
    obtain ⟨hx, hnd⟩ := List.nodup_cons.mp hnd
    rw [List.foldl_cons, deliverEach_eq, foldl_deliverEach _ _ hnd]
    -- the connections still to come are as they were at the start
    have hsame : ∀ y ∈ order, (n.afterTurn env channel payload sequence x).refuser env payload y =
        n.refuser env payload y := fun y hy => refuser_afterTurn (fun heq => hx (heq ▸ hy))
    rw [List.filter_congr (fun y hy => congrArg Option.isSome (hsame y hy)),
      List.filterMap_congr hsame]
    cases hr : n.refuser env payload x with
    | none => simp [hr, afterTurn]
    | some conn => simp [hr, afterTurn]

theorem get_foldl_updateConn (f : Connection → Connection) (y : ConnId) (l : List ConnId)
    (reg : Registry) (hnd : l.Nodup) :
    (l.foldl (fun reg x => reg.updateConn x f) reg).byId.get? y =
      if y ∈ l then (reg.byId.get? y).map f else reg.byId.get? y :=
  foldl_pointwise (fun reg y => reg.byId.get? y)
    (fun reg x y => Registry.get_updateConn reg x y f) y l reg hnd

theorem indexes_foldl_updateConn (f : Connection → Connection) :
    ∀ (l : List ConnId) (reg : Registry),
      let reg' := l.foldl (fun reg x => reg.updateConn x f) reg
      reg' = { reg with byId := reg'.byId }
  | [], _ => rfl
  | x :: l, reg => (indexes_foldl_updateConn f l (reg.updateConn x f)).trans rfl

end Loop

end Node

/-! ## 3. The fanout -/

open Connection

/-- **Fanout treats each subscriber by itself.**  Whatever the order in which the set is iterated: an
ACTIVE subscriber within its limits has the frame at the end of its queue, once; every other
connection is as it was; nothing else of the node changes but the tasks that terminate the refusers;
and the list that is returned has the id of each ACTIVE subscriber over its limits. -/
theorem fanout_each (env : Env) (channel : Channel) (payload : ServerFrame) (sequence : Option Int)
    (n : Node) (order : List ConnId) (horder : order.Perm (n.registry.localSubscribers channel)) :
    let out := n.deliverLocalWith env channel payload sequence order
    let size := env.wireSize payload
    let full := fun conn : Connection =>
      env.settings.connectionQueueMaxMessages ≤ conn.queue.length ∨
        (env.settings.connectionQueueMaxBytes : Int) < conn.queueBytes + size
    (∀ x, out.1.registry.byId.get? x = (n.registry.byId.get? x).map (fun conn =>
      if x ∈ n.registry.subscribersOf channel ∧ conn.state = .active ∧ ¬ full conn then
        conn.put ⟨payload, size, .normal, some channel, sequence⟩
      else conn)) ∧
    out.1 = { n with
      registry := { n.registry with byId := out.1.registry.byId }
      terminating := n.terminating ++
        order.filter (fun x => (n.refuser env payload x).isSome) } ∧
    (∀ y, y ∈ out.2 ↔ ∃ x conn, x ∈ n.registry.subscribersOf channel ∧
      n.registry.byId.get? x = some conn ∧ conn.connectionId = y ∧ conn.state = .active ∧
      full conn) ∧
    out.2.Perm (((n.registry.localSubscribers channel).filterMap
      (n.refuser env payload)).map Connection.connectionId) := by
  intro out size full
  have hfull : ∀ conn : Connection, conn.overLimit env size = true ↔ full conn := fun conn => by
    simp [overLimit, full]
  have hnd : order.Nodup := horder.nodup_iff.mpr (Registry.nodup_localSubscribers _ _)
  have hmem : ∀ x, x ∈ order ↔
      x ∈ n.registry.subscribersOf channel ∧ (n.registry.byId.get? x).isSome := fun x => by
    rw [horder.mem_iff, Registry.mem_localSubscribers]
  have hout : out = _ := Node.foldl_deliverEach n [] hnd
  refine ⟨fun x => ?_, ?_, fun y => ?_, ?_⟩
  · rw [hout]
    simp only [Node.get_foldl_updateConn _ x order n.registry hnd]
    cases hx : n.registry.byId.get? x with
    | none => simp
    | some conn =>
      have hin : x ∈ order ↔ x ∈ n.registry.subscribersOf channel := by
        rw [hmem, hx]
        simp
      have htest : conn.overLimit env size = false ↔ ¬ full conn := by
        rw [← hfull, Bool.not_eq_true]
      by_cases hsub : x ∈ n.registry.subscribersOf channel
      · simp only [hin.mpr hsub, hsub, if_true, Option.map_some, served, true_and]
        simp only [size] at htest
        simp only [htest]
        rfl
      · simp [hin, hsub]
  · have hindexes := Node.indexes_foldl_updateConn (served env channel payload sequence) order
      n.registry
    rw [hout]
    simp only at hindexes ⊢
    rw [← hindexes]
  · rw [hout]
    simp only [List.nil_append, List.mem_map, List.mem_filterMap, Node.refuser]
    constructor
    · rintro ⟨conn, ⟨x, hx, hconn⟩, rfl⟩
      obtain ⟨hget, hrefuses⟩ := Option.filter_eq_some_iff.mp hconn
      simp only [refuses, Bool.and_eq_true, decide_eq_true_eq] at hrefuses
      exact ⟨x, conn, ((hmem x).mp hx).1, hget, rfl, hrefuses.1, (hfull conn).mp hrefuses.2⟩
    · rintro ⟨x, conn, hsub, hget, rfl, hact, hover⟩
      refine ⟨conn, ⟨x, (hmem x).mpr ⟨hsub, by rw [hget]; rfl⟩, ?_⟩, rfl⟩
      refine Option.filter_eq_some_iff.mpr ⟨hget, ?_⟩
      simp only [refuses, Bool.and_eq_true, decide_eq_true_eq]
      exact ⟨hact, (hfull conn).mpr hover⟩
  · rw [hout]
    exact (horder.filterMap _).map _

/-- Three subscribers: one that keeps up, one whose queue of one is full, one that is closed. -/
def mixedNode : Node :=
  let backlog : QueuedMessage := ⟨.ping 0, 64, .high, none, none⟩
  [newConnection "fast" "s" "a" none, (newConnection "slow" "s" "a" none).put backlog,
    { newConnection "closed" "s" "a" none with state := .dead }].foldl
    (fun n conn => (n.add conn).subscribe conn.connectionId "t-a:c") {}

/-- The slow one is reported, and the fast one gets the frame although its turn comes last. -/
theorem fast_is_served_after_slow :
    let out := mixedNode.deliverLocalWith (.plain { connectionQueueMaxMessages := 1 }) "t-a:c"
      (.ping 7) none ["slow", "closed", "fast"]
    "slow" ∈ out.2 ∧ out.1.registry.byId.get? "fast" =
      (mixedNode.registry.byId.get? "fast").map
        (fun conn => conn.put ⟨.ping 7, 64, .normal, some "t-a:c", none⟩) := by
  intro out
  obtain ⟨hconn, -, hgone, -⟩ := fanout_each (.plain { connectionQueueMaxMessages := 1 }) "t-a:c"
    (.ping 7) none mixedNode ["slow", "closed", "fast"] (by decide +kernel)
  refine ⟨(hgone "slow").mpr ⟨"slow", _, by decide +kernel, rfl, rfl, rfl, Or.inl (by decide)⟩, ?_⟩
  rw [hconn "fast"]
  rfl

end Relay
