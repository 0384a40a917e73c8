/-
# Cutting off a slow consumer

`deliver_local` hands a message to every subscriber on the node.  When the bounded queue of one
refuses it, `deliver_local` starts a task `terminate_slow_consumer` and goes on; the task marks the
connection DEAD when it gets to run.  Until then the connection is ACTIVE, and a later message may
find room: a smaller one under the byte bound, or any one after the sender has taken an item off the
queue.  It is accepted behind the refused one, and the hole is invisible to the client.

If no message of the channel is delivered to the connection between the refusal and the task, there
is no hole (`cut_off_cleanly`): nothing is accepted after a refusal, and what was accepted is a prefix
of what was delivered.
-/
import Mathlib
import Relay.Fanout

namespace Relay

open Gateway

/-! ## 1. A node that delivers -/

/-- What can happen on a node between deliveries. -/
inductive FanoutAct
  /-- `deliver_local(channel, m)`. -/
  | deliver (channel : Channel) (m : MessageFrame)
  /-- The sender of a connection resumes. -/
  | sender (y : ConnId)
  | sendFails (y : ConnId)
  | ack (y : ConnId) (channel : Channel) (sequence : Int)
  /-- The `i`-th of the termination tasks not yet begun begins. -/
  | terminate (i : Nat)

/-- The first statement of `terminate_slow_consumer`. -/
def Node.markSlow (x : ConnId) (n : Node) : Node :=
  n.updateConn x (fun conn => { conn with state := .dead })

/-- One step of the node. -/
def Node.fanoutStep (env : Env) (n : Node) : FanoutAct → Node
  | .deliver channel m => n.deliverLocal env channel m
  | .sender y => n.updateConn y (fun conn => (conn.senderStep env).getD conn)
  | .sendFails y => n.updateConn y Connection.sendFails
  | .ack y channel sequence => n.updateConn y (fun conn => (conn.onAck env channel sequence).2)
  | .terminate i =>
    match n.terminating[i]? with
    | some y => ({ n with terminating := n.terminating.eraseIdx i }).markSlow y
    | none => n

/-- The task begins as the step says. -/
theorem terminateSlowConsumer_begins (x : ConnId) :
    ∃ k, terminateSlowConsumer x = .seg (fun g => setNode (g.node.markSlow x) g) k := ⟨_, rfl⟩

/-- What became of a message delivered to a subscriber. -/
inductive Fate
  | accepted
  /-- `enqueue` raised `SlowConsumerError`. -/
  | refused
  /-- The connection was not ACTIVE. -/
  | skipped
  deriving DecidableEq, Repr

/-- The fate of a message at a connection. -/
def Connection.fate (env : Env) (channel : Channel) (m : MessageFrame) (conn : Connection) : Fate :=
  if conn.state = .active then
    match conn.enqueue env (.message m) .normal (some channel) (some m.sequence) with
    | .ok _ => .accepted
    | .error _ => .refused
  else .skipped

/-- The messages of channel `c` a step delivers to connection `x`, with their fates. -/
def offered (env : Env) (x : ConnId) (c : Channel) (n : Node) : FanoutAct → List (MessageFrame × Fate)
  | .deliver channel m =>
    if channel = c ∧ x ∈ n.registry.subscribersOf c then
      (n.registry.byId.get? x).toList.map (fun conn => (m, conn.fate env c m))
    else []
  | _ => []

/-- The messages of a channel a connection has accepted. -/
def Connection.acceptedOn (c : Channel) (conn : Connection) : List MessageFrame :=
  conn.accepted.filterMap (fun item => if item.channel = some c then item.payload.message? else none)

/-- No message of the channel is delivered to the connection, ACTIVE, while a termination of it is
waiting to begin. -/
def NoneMeanwhile (x : ConnId) (c : Channel) (n : Node) : FanoutAct → Prop
  | .deliver channel _ => channel = c → ∀ conn ∈ n.registry.byId.get? x,
      conn.state = .active → x ∉ n.terminating
  | _ => True

instance (x : ConnId) (c : Channel) (n : Node) (a : FanoutAct) : Decidable (NoneMeanwhile x c n a) := by
  unfold NoneMeanwhile
  split <;> infer_instance

/-! ## 2. One step -/

section Step

variable {env : Env} {x : ConnId} {c : Channel} {n : Node}

/-- A connection hands on its fate: accepted, it has the message at the end of its queue; otherwise it
is as before. -/
theorem Connection.delivered_eq (env : Env) (channel : Channel) (m : MessageFrame)
    (conn : Connection) : conn.delivered env channel m =
      if conn.fate env channel m = .accepted then
        conn.put ⟨.message m, env.wireSize (.message m), .normal, some channel, some m.sequence⟩
      else conn := by
  unfold delivered fate
  split
  · cases h : conn.enqueue env (.message m) .normal (some channel) (some m.sequence) with
    | ok conn' => simpa using enqueue_normal h
    | error e => simp
  · simp

theorem Connection.state_delivered (env : Env) (channel : Channel) (m : MessageFrame)
    (conn : Connection) : (conn.delivered env channel m).state = conn.state := by
  rw [delivered_eq]
  split <;> rfl

theorem Connection.acceptedOn_delivered (env : Env) (channel : Channel) (m : MessageFrame)
    (conn : Connection) : (conn.delivered env channel m).acceptedOn c = conn.acceptedOn c ++
      if channel = c ∧ conn.fate env channel m = .accepted then [m] else [] := by
  rw [delivered_eq]
  by_cases hf : conn.fate env channel m = .accepted
  · by_cases hc : channel = c
    · subst hc
      simp [hf, acceptedOn, ServerFrame.message?]
    · simp [hf, hc, acceptedOn]
  · simp [hf]

/-- A refusal starts a termination, and terminations in waiting stay. -/
theorem mem_terminating_deliverTo (channel : Channel) (m : MessageFrame) (y : ConnId) :
    (x ∈ n.terminating → x ∈ (n.deliverTo env channel m y).terminating) ∧
      (∀ conn, n.registry.byId.get? y = some conn → conn.fate env channel m = .refused →
        y ∈ (n.deliverTo env channel m y).terminating) := by
  unfold Node.deliverTo Connection.fate
  cases n.registry.byId.get? y with
  | none => exact ⟨id, fun conn h => by cases h⟩
  | some conn =>
    simp only [Option.some.injEq]
    split
    · cases he : conn.enqueue env (.message m) .normal (some channel) (some m.sequence) with
      | ok conn' =>
        refine ⟨id, ?_⟩
        rintro _ rfl hf
        rw [if_pos ‹_›, he] at hf
        cases hf
      | error e => exact ⟨List.mem_append_left _, fun _ _ _ => List.mem_append_right _ (by simp)⟩
    · refine ⟨id, ?_⟩
      rintro _ rfl hf
      rw [if_neg ‹_›] at hf
      cases hf

/-- The same for the whole loop. -/
theorem mem_terminating_foldl (channel : Channel) (m : MessageFrame) :
    ∀ (l : List ConnId) (n : Node), l.Nodup →
      (x ∈ n.terminating → x ∈ (l.foldl (Node.deliverTo env channel m) n).terminating) ∧
      (x ∈ l → ∀ conn, n.registry.byId.get? x = some conn → conn.fate env channel m = .refused →
        x ∈ (l.foldl (Node.deliverTo env channel m) n).terminating)
  | [], _, _ => ⟨id, fun h => absurd h List.not_mem_nil⟩
  | y :: l, n, hnd => by
    rw [List.nodup_cons] at hnd
    obtain ⟨hkeep, hmem⟩ := mem_terminating_foldl channel m l (n.deliverTo env channel m y) hnd.2
    refine ⟨fun h => hkeep ((mem_terminating_deliverTo channel m y).1 h), fun hx conn hc hf => ?_⟩
    rcases List.mem_cons.mp hx with rfl | hx
    · exact hkeep ((mem_terminating_deliverTo (x := x) channel m x).2 conn hc hf)
    · -- the connection of `x` is untouched by the delivery to `y`
      refine hmem hx conn ?_ hf
      rw [Node.get_deliverTo, if_neg (fun he : x = y => hnd.1 (he ▸ hx)), hc]

/-- `x` accepts nothing any more: it is not ACTIVE, or its termination is waiting. -/
def Closing (x : ConnId) (n : Node) : Prop :=
  ∀ conn, n.registry.byId.get? x = some conn → conn.state = .active → x ∈ n.terminating

theorem subscribersOf_fanoutStep (a : FanoutAct) :
    (n.fanoutStep env a).registry.subscribersOf c = n.registry.subscribersOf c := by
  cases a with
  | deliver channel m => exact (Node.outbound_deliverLocal env channel m n).subscribersOf c
  | terminate i =>
    simp only [Node.fanoutStep]
    split <;> rfl
  | _ => rfl

theorem closing_step (h : Closing x n) (a : FanoutAct) : Closing x (n.fanoutStep env a) := by
  -- an update that leaves a connection that is not ACTIVE so
  have hupdate : ∀ (y : ConnId) (f : Connection → Connection),
      (∀ conn, (f conn).state = .active → conn.state = .active) → Closing x (n.updateConn y f) := by
    intro y f hf conn hconn hact
    rw [Node.updateConn, Registry.get_updateConn] at hconn
    split at hconn
    · obtain ⟨conn₀, h₀, rfl⟩ := Option.map_eq_some_iff.mp hconn
      exact h conn₀ h₀ (hf conn₀ hact)
    · exact h conn hconn hact
  cases a with
  | deliver channel m =>
    intro conn hconn hact
    refine (mem_terminating_foldl channel m _ n (Registry.nodup_localSubscribers _ _)).1 ?_
    rw [Node.fanoutStep, Node.get_deliverLocal] at hconn
    split at hconn
    · obtain ⟨conn₀, h₀, rfl⟩ := Option.map_eq_some_iff.mp hconn
      exact h conn₀ h₀ (by rwa [Connection.state_delivered] at hact)
    · exact h conn hconn hact
  | sender y => exact hupdate y _ (fun conn hc => Connection.state_senderStep env conn ▸ hc)
  | sendFails y =>
    refine hupdate y _ (fun conn hc => ?_)
    unfold Connection.sendFails at hc
    split at hc
    · cases hc
    · exact hc
  | ack y channel sequence => exact hupdate y _ (fun conn hc => hc)
  | terminate i =>
    simp only [Node.fanoutStep]
    cases hi : n.terminating[i]? with
    | none => exact h
    | some y =>
      intro conn hconn hact
      simp only [Node.markSlow, Node.updateConn, Registry.get_updateConn] at hconn
      split at hconn
      · obtain ⟨conn₀, h₀, rfl⟩ := Option.map_eq_some_iff.mp hconn
        cases hact
      · -- another connection's termination begins
        rename_i hne
        obtain ⟨j, hj⟩ := List.mem_iff_getElem?.mp (h conn hconn hact)
        refine List.mem_eraseIdx_iff_getElem?.mpr ⟨j, fun hji => hne ?_, hj⟩
        rw [hji, hi] at hj
        exact (Option.some.inj hj).symm

theorem mem_offered_deliver {channel : Channel} {m : MessageFrame} {o : MessageFrame × Fate}
    (ho : o ∈ offered env x c n (.deliver channel m)) :
    channel = c ∧ x ∈ n.registry.subscribersOf c ∧
      ∃ conn, n.registry.byId.get? x = some conn ∧ o = (m, conn.fate env c m) := by
  simp only [offered] at ho
  split at ho
  · rename_i hsub
    obtain ⟨conn, hconn, rfl⟩ := List.mem_map.mp ho
    exact ⟨hsub.1, hsub.2, conn, Option.mem_toList.mp hconn, rfl⟩
  · exact absurd ho List.not_mem_nil

/-- A step delivers at most one message to a connection. -/
theorem length_offered (env : Env) (x : ConnId) (c : Channel) (n : Node) (a : FanoutAct) :
    (offered env x c n a).length ≤ 1 := by
  cases a with
  | deliver channel m =>
    simp only [offered]
    split
    · cases n.registry.byId.get? x <;> simp
    · exact Nat.zero_le _
  | _ => exact Nat.zero_le _

/-- What a step does to the messages the connection has accepted. -/
theorem offered_step (env : Env) (hsub : x ∈ n.registry.subscribersOf c) {conn : Connection}
    (hconn : n.registry.byId.get? x = some conn) (a : FanoutAct) :
    ∃ conn', (n.fanoutStep env a).registry.byId.get? x = some conn' ∧
      conn'.acceptedOn c = conn.acceptedOn c ++
        ((offered env x c n a).filter (fun o => o.2 = .accepted)).map Prod.fst := by
  -- a step that delivers nothing of the channel, and updates a connection
  have hupdate : ∀ (y : ConnId) (f : Connection → Connection),
      (∀ conn, (f conn).accepted = conn.accepted) →
      ∃ conn', (n.updateConn y f).registry.byId.get? x = some conn' ∧
        conn'.acceptedOn c = conn.acceptedOn c ++ [] := by
    intro y f hf
    rw [Node.updateConn, Registry.get_updateConn, hconn]
    split
    · exact ⟨f conn, rfl, by rw [Connection.acceptedOn, hf, List.append_nil]; rfl⟩
    · exact ⟨conn, rfl, (List.append_nil _).symm⟩
  cases a with
  | deliver channel m =>
    rw [Node.fanoutStep, Node.get_deliverLocal, hconn]
    by_cases hc : channel = c
    · subst hc
      rw [if_pos hsub]
      refine ⟨_, rfl, ?_⟩
      rw [Connection.acceptedOn_delivered]
      by_cases hf : conn.fate env channel m = .accepted <;> simp [offered, hsub, hconn, hf]
    · have hnone : offered env x c n (.deliver channel m) = [] := by
        rw [offered, if_neg (fun h => hc h.1)]
      rw [hnone]
      split
      · exact ⟨_, rfl, by rw [Connection.acceptedOn_delivered, if_neg (fun h => hc h.1)]; rfl⟩
      · exact ⟨conn, rfl, (List.append_nil _).symm⟩
  | sender y => exact hupdate y _ (Connection.accepted_senderStep env)
  | sendFails y => exact hupdate y _ Connection.accepted_sendFails
  | ack y channel sequence => exact hupdate y _ (fun _ => rfl)
  | terminate i =>
    simp only [Node.fanoutStep]
    cases n.terminating[i]? with
    | none => exact ⟨conn, hconn, (List.append_nil _).symm⟩
    | some y => exact hupdate y _ (fun _ => rfl)

/-- A message that is not accepted closes the connection. -/
theorem closing_of_not_accepted (a : FanoutAct) {o : MessageFrame × Fate}
    (ho : o ∈ offered env x c n a) (hf : o.2 ≠ .accepted) : Closing x (n.fanoutStep env a) := by
  cases a with
  | deliver channel m =>
    obtain ⟨rfl, hsub, conn, hconn, rfl⟩ := mem_offered_deliver ho
    cases hfate : conn.fate env channel m with
    | accepted => exact absurd hfate hf
    | refused =>
      intro _ _ _
      refine (mem_terminating_foldl channel m _ n (Registry.nodup_localSubscribers _ _)).2 ?_
        conn hconn hfate
      rw [Registry.mem_localSubscribers]
      exact ⟨hsub, by rw [hconn]; rfl⟩
    | skipped =>
      refine closing_step (fun conn' hconn' hact => ?_) _
      obtain rfl := Option.some.inj (hconn.symm.trans hconn')
      unfold Connection.fate at hfate
      rw [if_pos hact] at hfate
      split at hfate <;> nomatch hfate
  | _ => exact absurd ho List.not_mem_nil

/-- A closing connection accepts nothing of the channel, when nothing is delivered to it meanwhile. -/
theorem not_accepted_of_closing (h : Closing x n) {a : FanoutAct} (ha : NoneMeanwhile x c n a) :
    ∀ o ∈ offered env x c n a, o.2 ≠ .accepted := by
  intro o ho
  cases a with
  | deliver channel m =>
    obtain ⟨hc, -, conn, hconn, rfl⟩ := mem_offered_deliver ho
    have hact : conn.state ≠ .active := fun hact => ha hc conn hconn hact (h conn hconn hact)
    unfold Connection.fate
    rw [if_neg hact]
    exact fun h => nomatch h
  | _ => exact absurd ho List.not_mem_nil

end Step

/-! ## 3. Runs -/

/-- A list in which nothing that fails `p` is followed by something that has it: what has it is a
prefix. -/
theorem filter_isPrefix {α : Type} {p : α → Bool} : ∀ {l : List α},
    l.Pairwise (fun a b => p a = false → p b = false) → l.filter p <+: l
  | [], _ => List.prefix_refl _
  | a :: l, h => by
    rw [List.pairwise_cons] at h
    cases hp : p a with
    | true =>
      rw [List.filter_cons_of_pos hp]
      exact List.prefix_cons_inj a |>.mpr (filter_isPrefix h.2)
    | false =>
      have hnil : l.filter p = [] := List.filter_eq_nil_iff.mpr (fun b hb => by
        rw [h.1 b hb hp]; exact Bool.false_ne_true)
      rw [List.filter_cons_of_neg (by rw [hp]; exact Bool.false_ne_true), hnil]
      exact List.nil_prefix

section Run

variable {env : Env} {x : ConnId} {c : Channel}

/-- The messages of a channel delivered to a connection along a run, with their fates. -/
def deliveries (env : Env) (x : ConnId) (c : Channel) (n : Node) (acts : List FanoutAct) :
    List (MessageFrame × Fate) :=
  emitted (Node.fanoutStep env) (offered env x c) n acts

/-- What was accepted in a run is in the connection's queue, in order. -/
theorem acceptedOn_run : ∀ (acts : List FanoutAct) {n : Node} {conn : Connection},
    x ∈ n.registry.subscribersOf c → n.registry.byId.get? x = some conn →
    ∃ conn', (runAll (Node.fanoutStep env) n acts).registry.byId.get? x = some conn' ∧
      conn'.acceptedOn c = conn.acceptedOn c ++
        ((deliveries env x c n acts).filter (fun o => o.2 = .accepted)).map Prod.fst
  | [], _, conn, _, hconn => ⟨conn, hconn, (List.append_nil _).symm⟩
  | a :: acts, n, conn, hsub, hconn => by
    obtain ⟨conn₁, h₁, hacc₁⟩ := offered_step env hsub hconn a
    have hsub₁ : x ∈ (n.fanoutStep env a).registry.subscribersOf c := by
      rwa [subscribersOf_fanoutStep]
    obtain ⟨conn', h', hacc'⟩ := acceptedOn_run acts hsub₁ h₁
    refine ⟨conn', h', ?_⟩
    simp only [hacc', hacc₁, deliveries, emitted_cons, List.filter_append, List.map_append,
      List.append_assoc]

/-- Nothing is accepted after something that was not. -/
theorem deliveries_pairwise : ∀ (acts : List FanoutAct) {n : Node},
    Along (Node.fanoutStep env) (NoneMeanwhile x c) n acts →
    (deliveries env x c n acts).Pairwise (fun a b => a.2 ≠ .accepted → b.2 ≠ .accepted)
  | [], _, _ => List.Pairwise.nil
  | a :: acts, n, hok => by
    rw [deliveries, emitted_cons, List.pairwise_append]
    refine ⟨?_, deliveries_pairwise acts hok.2, fun o ho o' ho' hf => ?_⟩
    · have hlen := length_offered env x c n a
      match offered env x c n a, hlen with
      | [], _ => exact List.Pairwise.nil
      | [o], _ => exact List.pairwise_singleton _ o
    · exact @emitted_invariant _ _ (Node.fanoutStep env) _ (offered env x c) (NoneMeanwhile x c)
        (Closing x) (fun o => o.2 ≠ .accepted) (fun s b hs _ => closing_step hs b)
        (fun s b hs hb => not_accepted_of_closing hs hb) acts _
        (closing_of_not_accepted a ho hf) hok.2 o' ho'

end Run

/-- **When a slow consumer is cut off cleanly.**  Deliveries of any channels and sizes, the senders,
ACKs and terminations of the node run in any interleaving, from any node on which `x` is subscribed
to `c`.  If no message of `c` is delivered to `x`, ACTIVE, while a termination of it is waiting to
begin, then no message of `c` is accepted after one was refused; the messages of `c` accepted are a
prefix of those delivered; and if these come in the order of their numbers, everything at or below an
accepted number was accepted. -/
theorem cut_off_cleanly (env : Env) (x : ConnId) (c : Channel) (n : Node) (conn : Connection)
    (hsub : x ∈ n.registry.subscribersOf c) (hconn : n.registry.byId.get? x = some conn)
    (acts : List FanoutAct)
    (hacts : Along (Node.fanoutStep env) (NoneMeanwhile x c) n acts) :
    let delivered := deliveries env x c n acts
    let accepted := (delivered.filter (fun o => o.2 = .accepted)).map Prod.fst
    (∃ conn', (runAll (Node.fanoutStep env) n acts).registry.byId.get? x = some conn' ∧
        conn'.acceptedOn c = conn.acceptedOn c ++ accepted) ∧
      delivered.Pairwise (fun a b => a.2 = .refused → b.2 ≠ .accepted) ∧
      accepted <+: delivered.map Prod.fst ∧
      ((delivered.map Prod.fst).Pairwise (fun a b => a.sequence < b.sequence) →
        ∀ a ∈ accepted, ∀ b ∈ delivered.map Prod.fst, b.sequence ≤ a.sequence → b ∈ accepted) := by
  intro delivered accepted
  have hpair := deliveries_pairwise acts hacts
  have hprefix : accepted <+: delivered.map Prod.fst := by
    refine List.IsPrefix.map Prod.fst (filter_isPrefix (hpair.imp fun {a b} h ha => ?_))
    simp only [decide_eq_false_iff_not] at ha ⊢
    exact h ha
  refine ⟨acceptedOn_run acts hsub hconn, hpair.imp fun {a b} h ha => h (by rw [ha]; decide),
    hprefix, fun hsorted a ha b hb hle => ?_⟩
  obtain ⟨rest, hrest⟩ := hprefix
  rw [← hrest] at hb hsorted
  rcases List.mem_append.mp hb with hb | hb
  · exact hb
  · exact absurd hle (not_le.mpr ((List.pairwise_append.mp hsorted).2.2 a ha b hb))

/-! ## 4. A hole -/

/-- A queue of at most `messages` messages and 100 bytes, and a message "big" of 200 bytes. -/
def boundedEnv (messages : Nat) : Env :=
  { Env.plain { connectionQueueMaxMessages := messages, connectionQueueMaxBytes := 100 } with
    wireSize := fun frame =>
      match frame with
      | .message m => if m.messageId = "big" then 200 else 10
      | _ => 10 }

/-- A node with one subscriber of the channel. -/
def subscribedNode : Node :=
  (({} : Node).add { newConnection "x" "s" "a" none with sender := .getting }).subscribe "x" "t-a:c"

/-- Message number `k` is delivered. -/
def deliverMessage (messageId : String) (k : Int) : FanoutAct :=
  .deliver "t-a:c" ⟨messageId, "t-a:c", k, 0, .null⟩

/-- Message 1 is too big for the byte bound and refused; message 2 arrives before the termination
begins and is accepted.  With equal sizes: message 2 is refused by a full queue, the sender takes
message 1 off it, and message 3 is accepted. -/
theorem smaller_message_accepted_after_refusal :
    (deliveries (boundedEnv 10) "x" "t-a:c" subscribedNode
        [deliverMessage "big" 1, deliverMessage "m" 2, .terminate 0]).map
      (fun o => (o.1.sequence, o.2)) = [(1, .refused), (2, .accepted)] ∧
    (deliveries (boundedEnv 1) "x" "t-a:c" subscribedNode
        [deliverMessage "m" 1, deliverMessage "m" 2, .sender "x", deliverMessage "m" 3,
          .terminate 0]).map
      (fun o => (o.1.sequence, o.2)) = [(1, .accepted), (2, .refused), (3, .accepted)] := by
  decide +kernel

/-- The termination begins before the next message: the connection keeps message 1 only. -/
theorem cut_off_before_next_message :
    (deliveries (boundedEnv 1) "x" "t-a:c" subscribedNode
        [deliverMessage "m" 1, deliverMessage "m" 2, .sender "x", .terminate 0,
          deliverMessage "m" 3]).map
      (fun o => (o.1.sequence, o.2)) = [(1, .accepted), (2, .refused), (3, .skipped)] ∧
    (deliveries (boundedEnv 1) "x" "t-a:c" subscribedNode
        [deliverMessage "m" 1, deliverMessage "m" 2, .sender "x", .terminate 0,
          deliverMessage "m" 3]).Pairwise (fun a b => a.2 = .refused → b.2 ≠ .accepted) :=
  ⟨by decide +kernel, (cut_off_cleanly (boundedEnv 1) "x" "t-a:c" subscribedNode _
    (by decide +kernel) rfl _ (by decide +kernel)).2.1⟩

end Relay
