/-
# What SUBSCRIBED promises

The SUBSCRIBE branch subscribes the connection in the registry, counts it, schedules the channel's
listener task if there is none, and answers SUBSCRIBED.  The listener's own SUBSCRIBE at Redis comes
later, when the task runs for the first time, and a PUBLISH that Redis executes before that does not
reach the process: the client has its SUBSCRIBED and misses the message.

`subscribed_is_live` says that this is all: if every PUBLISH on the channel after the reply finds the
listener attached, every message so published is in the listener's backlog, or enqueued on the
connection.

* until the reply, the handler's program ends with the connection subscribed (`Subscribing`);
* after it, every message published is accounted for (`Live`).

Both are invariants over `World.during_cases`, which says what one step can do.
-/
import Mathlib
import Relay.Handover

namespace Relay

open Gateway Redis

/-! ## 1. Until the reply -/

/-- The system when connection `x` of process `n` has just received a SUBSCRIBE and the other
connections' handlers wait for their next frames. -/
def World.subscribing (env : Env) (n : NodeId) (p : Peer) (fields : List (String × Json))
    (w : World) : World := w.resuming env n p fields

/-- The connection is registered and subscribed to the channel. -/
def Node.Serves (x : ConnId) (c : Channel) (n : Node) : Prop :=
  (n.registry.byId.get? x).isSome = true ∧ x ∈ n.registry.subscribersOf c

/-- The channel a SUBSCRIBED frame confirms. -/
def ServerFrame.confirms? : ServerFrame → Option Channel
  | .subscribed channel => some channel
  | _ => none

/-- The connection has been told that it is subscribed. -/
def Node.Told (x : ConnId) (c : Channel) (n : Node) : Prop :=
  ∃ conn ∈ n.registry.byId.get? x, ∃ frame ∈ conn.wire, frame.confirms? = some c

/-- The connection grows, and stays subscribed if it is. -/
structure Stays (x : ConnId) (c : Channel) (g g' : Gateway) : Prop where
  grows : g.node.Grows x g'.node
  subscribed : x ∈ g.node.registry.subscribersOf c → x ∈ g'.node.registry.subscribersOf c

section Stays

variable {x : ConnId} {c : Channel} {g g' : Gateway}

theorem Stays.refl (g : Gateway) : Stays x c g g := ⟨Node.Grows.refl x _, id⟩

theorem Stays.trans {a b d : Gateway} (h : Stays x c a b) (k : Stays x c b d) : Stays x c a d :=
  ⟨h.grows.trans k.grows, fun hs => k.subscribed (h.subscribed hs)⟩

theorem Stays.serves (h : Stays x c g g') (hs : g.node.Serves x c) : g'.node.Serves x c := by
  obtain ⟨conn, hconn⟩ := Option.isSome_iff_exists.mp hs.1
  obtain ⟨conn', hconn', -⟩ := h.grows conn hconn
  exact ⟨by rw [hconn']; rfl, h.subscribed hs.2⟩

theorem Stays.told (h : Stays x c g g') (ht : g.node.Told x c) : g'.node.Told x c := by
  obtain ⟨conn, hconn, frame, hmem, hframe⟩ := ht
  obtain ⟨conn', hconn', hg⟩ := h.grows conn hconn
  exact ⟨conn', hconn', frame, hg.wire.subset hmem, hframe⟩

theorem stays_registry (h : g'.node.registry = g.node.registry) : Stays x c g g' :=
  ⟨Node.grows_of_get (by rw [h]), fun hs => by rw [h]; exact hs⟩

theorem stays_sendText (y : ConnId) (frame : ServerFrame) (g : Gateway) :
    Stays x c g (setNode (g.node.sendText y frame).2 g) := by
  refine ⟨Node.grows_sendText frame g.node, fun hs => ?_⟩
  have hsub := (Node.outbound_sendText y frame g.node).subscribersOf c
  show x ∈ (g.node.sendText y frame).2.registry.subscribersOf c
  rw [hsub]
  exact hs

theorem command_stays {α : Type} (f : Redis → Except Exn α × Redis) :
    (withRedis (command f)).Keeps (fun _ => True) (Stays x c) := by
  intro g _
  refine ⟨trivial, stays_registry rfl, ?_⟩
  show (Prog.lift redis setRedis (Prog.ofExcept (attempt f g.redis).1)).Keeps _ _
  cases (attempt f g.redis).1 <;> trivial

theorem locally_stays (f : Node → Node) (h : ∀ g, Stays x c g (setNode (f g.node) g)) :
    (locally f).Keeps (fun _ => True) (Stays x c) :=
  Prog.keeps_modify (fun g _ => ⟨trivial, h g⟩)

theorem onLocalSubscribe_stays (env : Env) (d : Channel) :
    (onLocalSubscribe env d).Keeps (fun _ => True) (Stays x c) :=
  (locally_stays (Node.countUp d) (fun _ => stays_registry rfl)).bind fun _ =>
    (command_stays _).bind fun _ => (command_stays _).bind fun _ =>
      locally_stays (Node.startListener d)
        (fun g => stays_registry (Node.registry_startListener d g.node))

theorem sendText_stays (y : ConnId) (frame : ServerFrame) :
    (Gateway.sendText y frame).Keeps (fun _ => True) (Stays x c) :=
  Prog.keeps_atomic (fun g _ => ⟨trivial, stays_sendText y frame g⟩)

/-- What a segment of the SUBSCRIBE branch does. -/
theorem attachChannel_stays (env : Env) (p : Peer) (d : Channel) :
    (attachChannel env p d).Keeps (fun _ => True) (fun g g' =>
      Attaching env p.connectionId (fun _ => False) g g' ∧ Stays x c g g') := by
  have hsubscribe : ∀ g : Gateway, Stays x c g (setNode (g.node.subscribe p.connectionId d) g) :=
    fun g => ⟨Node.grows_subscribe d, fun hs =>
      (Registry.mem_subscribersOf_subscribe _ _ _ _ _).mpr (Or.inr hs)⟩
  refine Prog.Keeps.and ?_ ?_
  · exact (locally_attaching (fun _ => attaching_node (Node.grows_subscribe d) rfl rfl rfl)).bind
      fun _ => (onLocalSubscribe_attaching d).bind fun _ =>
        (sendText_attaching env _).bind fun _ => Prog.keeps_ret true
  · exact (locally_stays _ hsubscribe).bind fun _ =>
      (onLocalSubscribe_stays env d).bind fun _ => (sendText_stays _ _).bind fun _ =>
        Prog.keeps_ret true

/-- A write that succeeds is on the wire. -/
theorem told_sendText {n : Node} (hok : (n.sendText x (.subscribed c)).1 = .ok ())
    (hx : (n.registry.byId.get? x).isSome = true) : (n.sendText x (.subscribed c)).2.Told x c := by
  obtain ⟨conn, hconn⟩ := Option.isSome_iff_exists.mp hx
  exact ⟨_, Node.wire_sendText hconn hok, .subscribed c,
    List.mem_append_right _ (List.mem_singleton_self _), rfl⟩

/-- Whatever happens meanwhile, the connection is subscribed when the branch returns, and has been
told so. -/
theorem wp_attachChannel (env : Env) (p : Peer)
    (hx : (g.node.registry.byId.get? p.connectionId).isSome = true) :
    (attachChannel env p c).Wp (Stays p.connectionId c) (fun r g => ∀ a, r = .ok a →
      g.node.Serves p.connectionId c ∧ g.node.Told p.connectionId c) g := by
  refine Prog.wp_bind Stays.refl (fun _ _ _ h => absurd h (by simp)) ?_
  intro g₁ h₁ g₂ h₂ _ _
  have hserves : g₂.node.Serves p.connectionId c := by
    obtain ⟨conn, hconn⟩ := Option.isSome_iff_exists.mp hx
    obtain ⟨conn₁, hconn₁, -⟩ := h₁.grows conn hconn
    refine h₂.serves ⟨?_, (Registry.mem_subscribersOf_subscribe _ _ _ _ _).mpr
      (Or.inl ⟨rfl, rfl, by rw [hconn₁]; rfl⟩)⟩
    show ((g₁.node.registry.subscribe p.connectionId c).byId.get? p.connectionId).isSome = true
    rw [Registry.get_subscribe, if_pos rfl, hconn₁]
    rfl
  refine Prog.wp_bind Stays.refl (fun _ _ _ h => absurd h (by simp)) ?_
  refine (Prog.wp_of_keeps (P := fun _ => True) (fun _ _ hs hr => hr.serves hs)
    (onLocalSubscribe_stays env c) (Prog.Returns.any _) hserves).mono ?_
  rintro r g₃ ⟨hserves₃, -⟩ _ _
  refine Prog.wp_bind Stays.refl (fun _ _ _ h => absurd h (by simp)) ?_
  refine Prog.wp_atomic (fun g₄ g₅ h₄ h₅ b hb => ?_)
  have hserves₄ := h₄.serves hserves₃
  have htold : (g₄.node.sendText p.connectionId (.subscribed c)).2.Told p.connectionId c :=
    told_sendText hb hserves₄.1
  intro g₆ h₆ _ _
  have hsent : Stays p.connectionId c g₄ g₆ :=
    ((stays_sendText p.connectionId (.subscribed c) g₄).trans h₅).trans h₆
  exact ⟨hsent.serves hserves₄, (h₅.trans h₆).told htold⟩

end Stays

/-- The handling of a SUBSCRIBE in progress. -/
structure Subscribing (env : Env) (n : NodeId) (x : ConnId) (c : Channel) (w : World) : Prop where
  task : ∃ prog, w.tasks = [(n, prog)] ∧
    prog.Keeps (fun _ => True) (fun g g' =>
      Attaching (env.at n) x (fun _ => False) g g' ∧ Stays x c g g') ∧
    prog.Wp (Stays x c) (fun r g => ∀ a, r = .ok a → g.node.Serves x c ∧ g.node.Told x c)
      (w.gateway n)
  wired : Wired (ownedBy (env.at n) w.redis) (w.nodes n)
  up : w.redis.faults = []

section Until

variable {env : Env} {n : NodeId} {x : ConnId} {c : Channel} {w w' : World}

/-- A step of the environment. -/
theorem Subscribing.environment (h : Subscribing env n x c w) (htasks : w'.tasks = w.tasks)
    (hs : Stays x c (w.gateway n) (w'.gateway n))
    (hwired : Wired (ownedBy (env.at n) w'.redis) (w'.nodes n)) (hup : w'.redis.faults = []) :
    Subscribing env n x c w' := by
  obtain ⟨prog, ht, hk, hwp⟩ := h.task
  exact ⟨⟨prog, htasks.trans ht, hk,
    Prog.Wp.stable (R := Stays x c) (fun _ _ _ h k => Stays.trans h k) hwp hs⟩, hwired, hup⟩

/-- A segment of the handling itself. -/
theorem subscribing_task (h : Subscribing env n x c w) (i : Nat) :
    Subscribing env n x c (w.stepTask i) := by
  obtain ⟨prog, ht, hk, hwp⟩ := h.task
  rcases stepTask_single ht i with heq | ⟨f, k, rfl, heq⟩
  · rw [heq]; exact h
  · rw [heq]
    obtain ⟨-, ⟨hatt, -⟩, hk'⟩ := hk (w.gateway n) trivial
    have hgw := gateway_segment (w := w) (n := n) (f (w.gateway n)) [(n, k (w.gateway n))]
    refine ⟨⟨k (w.gateway n), rfl, hk', ?_⟩, ?_, hatt.side.up h.up⟩
    · rw [hgw]
      exact hwp _ (Stays.refl _)
    · have hnode : (w.put n (f (w.gateway n))).nodes n = (f (w.gateway n)).node := by
        simp [World.put]
      show Wired _ ((w.put n (f (w.gateway n))).nodes n)
      rw [hnode]
      exact hatt.wired h.wired

/-- A delivery keeps the connection registered and subscribed. -/
theorem World.Delivers.stays {m : MessageFrame} (hd : World.Delivers env n c m w w') :
    Stays x c (w.gateway n) (w'.gateway n) := by
  refine ⟨?_, fun hs => ?_⟩
  · show (w.nodes n).Grows x (w'.nodes n)
    rw [hd.node]
    exact Node.grows_deliverLocal (env.at n) c m
  · show x ∈ (w'.nodes n).registry.subscribersOf c
    rw [hd.node, (Node.outbound_deliverLocal (env.at n) c m _).subscribersOf c]
    exact hs

theorem World.Quiet.stays (hq : World.Quiet env n x c w w') :
    Stays x c (w.gateway n) (w'.gateway n) :=
  ⟨hq.grows, fun hs => by
    show x ∈ (w'.nodes n).registry.subscribersOf c
    rw [hq.subscribersOf]
    exact hs⟩

/-- **One step until the reply.** -/
theorem subscribing_step (w : World) (a : WorldAct) (hdur : a.DuringResume)
    (h : Subscribing env n x c w) : Subscribing env n x c (w.step env a) := by
  rcases World.during_cases (x := x) (c := c) h.wired h.up a hdur with
    ⟨i, rfl⟩ | ⟨i, ps, call, st, ps', rfl, hps, hi, heq⟩ | ⟨m, rfl, hd⟩ | hq
  · exact subscribing_task h i
  · rw [heq]
    exact h.environment rfl (stays_registry rfl) (wired_fire h.wired call st)
      ((fire_frame env call w.redis st).2.trans h.up)
  · exact h.environment hd.tasks hd.stays hd.wired hd.up
  · exact h.environment hq.tasks hq.stays hq.wired hq.up

end Until

/-! ## 2. After the reply -/

/-- A call about to PUBLISH on the channel finds the listener attached. -/
def FindsListener (c : Channel) (n : Node) : PublishCall × Stage → Prop
  | (call, .trimmed _) => call.channel = c → n.Listening c
  | _ => True

/-- Every PUBLISH on the channel finds the process's listener attached. -/
def Heard (n : NodeId) (c : Channel) (w : World) : WorldAct → Prop
  | .publisher i => ∀ p ∈ w.publishers[i]?, FindsListener c (w.nodes n) p
  | _ => True

/-- The connection is subscribed, and every message published on the channel since the `base`-th
is in the listener's backlog or enqueued on the connection. -/
structure Live (env : Env) (base : Nat) (n : NodeId) (x : ConnId) (c : Channel) (w : World) :
    Prop where
  returned : ∀ t ∈ w.tasks, t.2.returned = true
  wired : Wired (ownedBy (env.at n) w.redis) (w.nodes n)
  up : w.redis.faults = []
  serves : (w.nodes n).Serves x c
  fresh : base ≤ (w.redis.published c).length
  account : ∀ m ∈ (w.redis.published c).drop base,
    m ∈ backlog (env.at n) c (w.gateway n) ∨
      ∃ conn ∈ (w.nodes n).registry.byId.get? x, conn.Accepted c m.key

section After

variable {env : Env} {base : Nat} {n : NodeId} {x : ConnId} {c : Channel} {w w' : World}

/-- What is enqueued stays so. -/
theorem accepted_stays {k : String × Int} (hs : Stays x c (w.gateway n) (w'.gateway n))
    (h : ∃ conn ∈ (w.nodes n).registry.byId.get? x, conn.Accepted c k) :
    ∃ conn ∈ (w'.nodes n).registry.byId.get? x, conn.Accepted c k := by
  obtain ⟨conn, hconn, hacc⟩ := h
  obtain ⟨conn', hconn', hg⟩ := hs.grows conn hconn
  exact ⟨conn', hconn', hacc.grows hg⟩

theorem Live.quiet (h : Live env base n x c w) (hq : World.Quiet env n x c w w') :
    Live env base n x c w' := by
  refine ⟨?_, hq.wired, hq.up, hq.stays.serves h.serves, ?_, fun m hm => ?_⟩
  · rw [hq.tasks]; exact h.returned
  · rw [hq.published]; exact h.fresh
  · rw [hq.published] at hm
    rw [hq.backlog]
    exact (h.account m hm).imp_right (accepted_stays hq.stays)

/-- A delivery on the channel. -/
theorem live_delivers (h : Live env base n x c w) {m : MessageFrame}
    (hd : World.Delivers env n c m w w')
    (hacc : Accepting env n x c w (.listener n c .receive)) : Live env base n x c w' := by
  refine ⟨?_, hd.wired, hd.up, hd.stays.serves h.serves, ?_, fun m' hm' => ?_⟩
  · rw [hd.tasks]; exact h.returned
  · rw [hd.published]; exact h.fresh
  · rw [hd.published] at hm'
    rcases h.account m' hm' with hin | hin
    · rw [hd.backlog] at hin
      rcases List.mem_cons.mp hin with rfl | hin
      · -- it was the head, and the connection has room for it
        obtain ⟨conn, hconn, hactive, hroom⟩ := hacc rfl rfl m' (by rw [hd.backlog]; rfl)
        exact Or.inr (hd.accepted h.serves.2 hconn hactive hroom)
      · exact Or.inl hin
    · exact Or.inr (accepted_stays hd.stays hin)

/-- The next command of a publisher. -/
theorem live_fire {ps ps' : List (PublishCall × Stage)} {call : PublishCall} {st : Stage}
    (h : Live env base n x c w) (hheard : FindsListener c (w.nodes n) (call, st)) :
    Live env base n x c { w with
      redis := (Stage.fire env call w.redis st).1
      publishers := ps ++ (call, (Stage.fire env call w.redis st).2) :: ps' } := by
  rcases fire_cases (c := c) h.wired call st with ⟨k, rfl, hc, hpub, hb⟩ | ⟨hpub, hb⟩
  · obtain ⟨l, hl, hphase⟩ := hheard hc
    rw [if_pos ⟨l, hl, hphase⟩] at hb
    refine ⟨h.returned, wired_fire h.wired call _, (fire_frame env call w.redis _).2.trans h.up,
      h.serves, ?_, fun m hm => ?_⟩
    · show base ≤ ((Stage.fire env call w.redis (.trimmed k)).1.published c).length
      rw [hpub, List.length_append]
      exact Nat.le_add_right_of_le h.fresh
    · have hm' : m ∈ (w.redis.published c ++ [Stage.envelope call k w.redis]).drop base := by
        rw [← hpub]
        exact hm
      show m ∈ backlog (env.at n) c ⟨(Stage.fire env call w.redis (.trimmed k)).1, w.nodes n⟩ ∨ _
      rw [hb]
      rw [List.drop_append_of_le_length h.fresh] at hm'
      rcases List.mem_append.mp hm' with hold | hnew
      · exact (h.account m hold).imp_left (List.mem_append_left _)
      · exact Or.inl (List.mem_append_right _ hnew)
  · refine ⟨h.returned, wired_fire h.wired call st, (fire_frame env call w.redis st).2.trans h.up,
      h.serves, ?_, fun m hm => ?_⟩
    · show base ≤ ((Stage.fire env call w.redis st).1.published c).length
      rw [hpub]
      exact h.fresh
    · have hm' : m ∈ (w.redis.published c).drop base := by
        rw [← hpub]
        exact hm
      show m ∈ backlog (env.at n) c ⟨(Stage.fire env call w.redis st).1, w.nodes n⟩ ∨ _
      rw [hb]
      exact h.account m hm'

/-- A handler that has returned does not move. -/
theorem stepTask_returned (h : ∀ t ∈ w.tasks, t.2.returned = true) (i : Nat) : w.stepTask i = w := by
  unfold World.stepTask
  split
  · rename_i m f k hi
    exact absurd (h _ (List.mem_of_getElem? hi)) (by simp [Prog.returned])
  · rfl

/-- **One step after the reply.** -/
theorem live_step (w : World) (a : WorldAct) (hdur : a.DuringResume)
    (hacc : Accepting env n x c w a) (hheard : Heard n c w a) (h : Live env base n x c w) :
    Live env base n x c (w.step env a) := by
  rcases World.during_cases (x := x) (c := c) h.wired h.up a hdur with
    ⟨i, rfl⟩ | ⟨i, ps, call, st, ps', rfl, hps, hi, heq⟩ | ⟨m, rfl, hd⟩ | hq
  · show Live env base n x c (w.stepTask i)
    rw [stepTask_returned h.returned]
    exact h
  · rw [heq]
    exact live_fire h (hheard (call, st) hi)
  · exact live_delivers h hd hacc
  · exact h.quiet hq

end After

/-! ## 3. What SUBSCRIBED is worth -/

theorem subscribing_start {env : Env} {w : World} {n : NodeId} {p : Peer} {c : Channel}
    (hwired : Wired (ownedBy (env.at n) w.redis) (w.nodes n)) (hup : w.redis.faults = [])
    (hx : ((w.nodes n).registry.byId.get? p.connectionId).isSome = true)
    {fields : List (String × Json)} (hbranch : branchOf fields = .subscribe)
    (hparse : parseSubscribe fields = some c) (hown : channelBelongsToTenant c p.tenantId = true) :
    Subscribing env n p.connectionId c (w.subscribing env n p fields) := by
  have hprog : onFrame (env.at n) p (.obj fields) = attachChannel (env.at n) p c := by
    simp only [onFrame, hbranch, onSubscribe, hparse, hown, if_true]
  refine ⟨⟨_, rfl, ?_, ?_⟩, hwired, hup⟩
  · rw [hprog]
    exact (attachChannel_stays (env.at n) p c).bind fun _ => Prog.keeps_ret ()
  · rw [hprog]
    refine Prog.wp_bind Stays.refl (fun _ _ _ h => absurd h (by simp))
      ((wp_attachChannel (env.at n) p hx).mono ?_)
    intro r g h b hb g' hg' _ _
    obtain ⟨hserves, htold⟩ := h b hb
    exact ⟨hg'.serves hserves, hg'.told htold⟩

/-- **SUBSCRIBED means live delivery once the listener is attached.**  From any reachable state,
under any interleaving of the SUBSCRIBE with publishers, listeners and senders: when its handler has
returned the connection has been told SUBSCRIBED, and if every PUBLISH on the channel from then on
finds the process's listener attached, every message so published is enqueued on the connection,
unless the listener has it still to process. -/
theorem subscribed_is_live (env : Env) (faults : List Bool) (trims : List Nat)
    (socketFaults : NodeId → List Bool) (earlier : List WorldAct) (w : World)
    (hw : w = runAll (World.step env) (World.start faults trims socketFaults) earlier)
    (hup : w.redis.faults = []) (n : NodeId) (x : ConnId) (conn : Connection)
    (hx : (w.nodes n).registry.byId.get? x = some conn)
    (fields : List (String × Json)) (hbranch : branchOf fields = .subscribe) (c : Channel)
    (hparse : parseSubscribe fields = some c)
    (hown : channelBelongsToTenant c conn.tenantId = true)
    (handling : List WorldAct) (hhandling : ∀ a ∈ handling, a.DuringResume) (w₁ : World)
    (hw₁ : w₁ = runAll (World.step env) (w.subscribing env n (peerOf x conn) fields) handling)
    (hreplied : ∀ t ∈ w₁.tasks, t.2.returned = true)
    (acts : List WorldAct) (hacts : ∀ a ∈ acts, a.DuringResume)
    (haccept : Along (World.step env) (Accepting env n x c) w₁ acts)
    (hheard : Along (World.step env) (Heard n c) w₁ acts)
    (w₂ : World) (hw₂ : w₂ = runAll (World.step env) w₁ acts) :
    (w₁.nodes n).Told x c ∧
      ∀ m ∈ (w₂.redis.published c).drop (w₁.redis.published c).length,
        m ∈ backlog (env.at n) c (w₂.gateway n) ∨
          ∃ conn' ∈ (w₂.nodes n).registry.byId.get? x, conn'.Accepted c m.key := by
  have hstart : Subscribing env n x c (w.subscribing env n (peerOf x conn) fields) :=
    subscribing_start (p := peerOf x conn) (hw ▸ wired_run env faults trims socketFaults earlier n)
      hup (by rw [show (peerOf x conn).connectionId = x from rfl, hx]; rfl) hbranch hparse hown
  have hmid : Subscribing env n x c w₁ := by
    rw [hw₁]
    exact runAll_invariant (fun w a hw (ha : a.DuringResume) => subscribing_step w a ha hw)
      handling _ hstart (along_of_forall handling hhandling)
  -- the reply has been written: the postcondition of the handler
  obtain ⟨prog, ht, -, hwp⟩ := hmid.task
  obtain ⟨a, rfl⟩ := Prog.returned_iff.mp (hreplied (n, prog) (by rw [ht]; exact List.mem_cons_self))
  obtain ⟨hserves, htold⟩ := hwp _ (Stays.refl _) a rfl
  refine ⟨htold, ?_⟩
  have hlive : Live env (w₁.redis.published c).length n x c w₁ :=
    ⟨hreplied, hmid.wired, hmid.up, hserves, le_refl _, fun m hm => by simp at hm⟩
  have hend : Live env (w₁.redis.published c).length n x c w₂ := by
    rw [hw₂]
    exact runAll_invariant (fun w a hw (ha : (a.DuringResume ∧ Accepting env n x c w a) ∧
      Heard n c w a) => live_step w a ha.1.1 ha.1.2 ha.2 hw) acts _ hlive
      (((along_of_forall acts hacts).and haccept).and hheard)
  exact hend.account

/-! ## 4. The window after the reply -/

instance (c : Channel) (node : Node) : ∀ p, Decidable (FindsListener c node p)
  | (_, .trimmed _) => inferInstanceAs (Decidable (_ → _))
  | (_, .start) | (_, .numbered _) | (_, .stored _) | (_, .done _) | (_, .failed) => isTrue trivial

instance (n : NodeId) (c : Channel) (w : World) : ∀ a, Decidable (Heard n c w a)
  | .publisher _ => inferInstanceAs (Decidable (∀ _ ∈ _, _))
  | .listener _ _ _ | .accept _ _ _ | .task _ | .publish _ | .reap _ | .terminate _ | .sender _ _
  | .sendFails _ _ | .ping _ _ _ | .timeout _ _ | .tick _ => isTrue trivial

instance (x : ConnId) (c : Channel) (n : Node) : Decidable (n.Told x c) :=
  inferInstanceAs (Decidable (∃ _ ∈ _, ∃ _ ∈ _, _))

/-- SUBSCRIBE to a channel. -/
def subscribeFields : List (String × Json) :=
  [("type", .str FrameType.subscribe.value), ("channel", .str "t-a:c")]

/-- The client of `connectedWorld` has subscribed, and its handler has written the reply. -/
def repliedWorld : World :=
  runAll (World.step (.plain {})) (connectedWorld.subscribing (.plain {}) "n" peerX subscribeFields)
    (List.replicate 6 (.task 0))

/-- Message 2 is published. -/
def publishNext : List WorldAct :=
  .publish ⟨"t-a:c", "m2", .null⟩ :: List.replicate 4 (.publisher 1)

/-- It is published before the listener attaches. -/
def publishedTooEarly : List WorldAct :=
  publishNext ++ [.listener "n" "t-a:c" .attach, .listener "n" "t-a:c" .receive]

/-- It is published with the listener attached. -/
def publishedInTime : List WorldAct :=
  .listener "n" "t-a:c" .attach :: publishNext ++ [.listener "n" "t-a:c" .receive]

/-- A message published after SUBSCRIBED was written and before the listener attaches never reaches
the connection. -/
theorem publish_after_subscribed_is_lost :
    let w := runAll (World.step (.plain {})) repliedWorld publishedTooEarly
    (repliedWorld.nodes "n").Told "x" "t-a:c" ∧ (∀ t ∈ repliedWorld.tasks, t.2.returned = true) ∧
      (∀ a ∈ publishedTooEarly, a.DuringResume) ∧
      Along (World.step (.plain {})) (Accepting (.plain {}) "n" "x" "t-a:c") repliedWorld
        publishedTooEarly ∧
      ((w.nodes "n").registry.byId.get? "x").map Connection.state = some .active ∧
      "x" ∈ (w.nodes "n").registry.subscribersOf "t-a:c" ∧
      (backlog ((Env.plain {}).at "n") "t-a:c" (w.gateway "n")).length = 0 ∧
      ∃ m ∈ (w.redis.published "t-a:c").drop (repliedWorld.redis.published "t-a:c").length,
        ¬ ∃ conn ∈ (w.nodes "n").registry.byId.get? "x", conn.Accepted "t-a:c" m.key := by
  decide +kernel

/-- The message published after the listener has attached is enqueued. -/
theorem publish_after_attach_arrives :
    let w := runAll (World.step (.plain {})) repliedWorld publishedInTime
    ∀ m ∈ (w.redis.published "t-a:c").drop (repliedWorld.redis.published "t-a:c").length,
      ∃ conn ∈ (w.nodes "n").registry.byId.get? "x", conn.Accepted "t-a:c" m.key := by
  intro w
  obtain ⟨conn, hconn, hpeer⟩ := Option.map_eq_some_iff.mp connectedWorld_peer
  have hid : conn.connectionId = "x" := congrArg Peer.connectionId hpeer
  have hp : peerOf "x" conn = peerX := by rw [← hpeer, peerOf, Connection.peer, hid]
  have htenant : conn.tenantId = "a" := congrArg Peer.tenantId hpeer
  have hw₁ : repliedWorld = runAll (World.step (.plain {})) (connectedWorld.subscribing (.plain {}) "n"
      (peerOf "x" conn) subscribeFields) (List.replicate 6 (.task 0)) := by rw [hp]; rfl
  have hlive := subscribed_is_live (.plain {}) [] [] (fun _ => []) connectedRun connectedWorld rfl
    (by decide +kernel) "n" "x" conn hconn subscribeFields (by decide +kernel) "t-a:c"
    (by decide +kernel) (by rw [htenant]; decide +kernel) (List.replicate 6 (.task 0))
    (by decide +kernel) repliedWorld hw₁ (by decide +kernel) publishedInTime (by decide +kernel)
    (by decide +kernel) (by decide +kernel) w rfl
  have hempty : backlog ((Env.plain {}).at "n") "t-a:c" (w.gateway "n") = [] :=
    List.length_eq_zero_iff.mp (by decide +kernel)
  intro m hm
  have hcase := hlive.2 m hm
  rw [hempty] at hcase
  exact hcase.resolve_left List.not_mem_nil

end Relay
