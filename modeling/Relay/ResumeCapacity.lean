/-
# What a RESUME can carry

A recovery buffer holds up to `channel_buffer_max_messages` messages of up to
`max_message_size_bytes` each.  A RESUME puts the whole replay of a channel in the connection's
queue without an await, and the queue has bounds of its own, on the number of frames and on their
bytes.  The three limits were chosen independently.

Between two channels the handler awaits, and an idle sender has its turn.  It takes the first frame
in any case.  How many more depends on the socket: if that takes what is written, as many as the
window admits, and one with which it waits.

* `absorbs_iff`: what the turns leave in the queue of a fresh connection, in numbers;
* `resume_completes_iff`: with a socket that takes what is written, the RESUME completes exactly if
  the replay of each channel fits in what is then left of the queue; whatever the socket does, it
  completes if one frame less is enough;
* `full_buffers_cannot_be_resumed`: with the default settings two channels of 600 messages are too
  much.
-/
import Mathlib
import Relay.ResumeOrder

namespace Relay

open Gateway Redis

/-! ## 1. A replay that comes channel by channel -/

/-- An empty queue has room for frames of these sizes. -/
def FitsQueue (env : Env) (sizes : List Nat) : Prop :=
  sizes.length ≤ env.settings.connectionQueueMaxMessages ∧
    sizes.sum ≤ env.settings.connectionQueueMaxBytes

instance (env : Env) (sizes : List Nat) : Decidable (FitsQueue env sizes) :=
  inferInstanceAs (Decidable (_ ∧ _))

/-- The frames come channel by channel, after those `before` them, and the first `taken` of all have
left the queue when the next channel comes: each channel finds room. -/
def Staggers (env : Env) (taken : Nat) : List Nat → List (List Nat) → Prop
  | _, [] => True
  | before, sizes :: rest =>
    FitsQueue env (before.drop taken ++ sizes) ∧ Staggers env taken (before ++ sizes) rest

instance decidableStaggers (env : Env) (taken : Nat) : ∀ before channels,
    Decidable (Staggers env taken before channels)
  | _, [] => inferInstanceAs (Decidable True)
  | before, sizes :: rest =>
    have := decidableStaggers env taken (before ++ sizes) rest
    inferInstanceAs (Decidable (_ ∧ _))

/-- The sizes of the frames a RESUME replays, for each own channel that has no gap. -/
def replaySizes (env : Env) (p : Peer) (r : Redis) : List (Channel × Int) → List (List Nat)
  | [] => []
  | (channel, lastAck) :: rest =>
    if channelBelongsToTenant channel p.tenantId = true ∧
        (replayOf (r.stream channel) lastAck).gap = false then
      entrySizes env channel (replayOf (r.stream channel) lastAck).messages ::
        replaySizes env p r rest
    else replaySizes env p r rest

section Sizes

variable {env : Env} {l l' : List Nat}

theorem FitsQueue.sublist (h : FitsQueue env l) (hs : l'.Sublist l) : FitsQueue env l' :=
  ⟨hs.length_le.trans h.1, (hs.sum_le_sum (fun _ _ => Nat.zero_le _)).trans h.2⟩

theorem FitsQueue.drop_append {before sizes : List Nat} {taken : Nat}
    (h : FitsQueue env (before.drop taken ++ sizes)) :
    FitsQueue env ((before ++ sizes).drop taken) := by
  rw [List.drop_append]
  exact h.sublist ((List.Sublist.refl _).append (List.drop_sublist _ _))

end Sizes

/-! ## 2. What the sender takes -/

namespace Connection

/-- The sender has run as far as it can after these NORMAL frames were put in an empty queue: those
the window admits are written, and with the next one it waits. -/
structure Fed (env : Env) (items : List QueuedMessage) (c : Connection) : Prop where
  queue : c.queue = items.drop (env.settings.maxInflightMessages + 1)
  bytes : c.queueBytes = ((c.queue.map QueuedMessage.sizeBytes).sum : Nat)
  active : c.state = .active
  sender : if items.length ≤ env.settings.maxInflightMessages then
      c.sender = .getting ∧ c.inflight.length = items.length
    else (∃ item, c.sender = .waiting item) ∧ c.windowEvent = false

section Fed

variable {env : Env} {items : List QueuedMessage} {c : Connection}

theorem Fed.blocked (h : c.Fed env items) : c.senderStep env = none := by
  have hsender := h.sender
  unfold senderStep
  split at hsender
  · rename_i hle
    rw [hsender.1, h.queue, List.drop_eq_nil_of_le (by omega)]
  · obtain ⟨⟨item, hs⟩, he⟩ := hsender
    rw [hs, he]
    rfl

/-- The sender takes frames one by one until the queue is empty or the window is full. -/
theorem fed_drained : ∀ (queue : List QueuedMessage) {items : List QueuedMessage} {c : Connection},
    (∀ item ∈ queue, item.priority = .normal ∧ item.slot.isSome = true) → c.queue = queue →
      c.queueBytes = ((c.queue.map QueuedMessage.sizeBytes).sum : Nat) → c.state = .active →
      c.sender = .getting → c.inflight.length = items.length →
      items.length ≤ env.settings.maxInflightMessages → (c.drained env).Fed env (items ++ queue)
  | [], items, c, _, hq, hb, ho, hs, hi, hle => by
    have hfed : c.Fed env items :=
      ⟨by rw [hq, List.drop_eq_nil_of_le (by omega)], hb, ho, by rw [if_pos hle]; exact ⟨hs, hi⟩⟩
    rw [List.append_nil, drained_of_blocked hfed.blocked]
    exact hfed
  | item :: rest, items, c, hnormal, hq, hb, ho, hs, hi, hle => by
    obtain ⟨hprio, hslot⟩ := hnormal item List.mem_cons_self
    have hstep : c.senderStep env = some (waitForWindow env
        { c with queue := rest, queueBytes := c.queueBytes - item.sizeBytes } item) := by
      simp only [senderStep, hs, hq, hprio, if_true]
    have hbytes : c.queueBytes - item.sizeBytes
        = ((rest.map QueuedMessage.sizeBytes).sum : Nat) := by
      rw [hb, hq, List.map_cons, List.sum_cons]
      push_cast
      ring
    rcases Nat.lt_or_ge c.inflight.length env.settings.maxInflightMessages with hroom | hfull
    · -- the frame is written, and the sender comes back for the next one
      have hwait : waitForWindow env
          { c with queue := rest, queueBytes := c.queueBytes - item.sizeBytes } item = _ :=
        waitForWindow_room ho hroom
      rw [hwait] at hstep
      have hsent : senderStep env { c with
          queue := rest, queueBytes := c.queueBytes - item.sizeBytes
          inflight := c.inflight ++ item.slot.toList, sender := .sending item } = _ :=
        senderStep_sending env rfl ho
      rw [drained_step hstep, drained_step hsent]
      have hnext : ∀ x ∈ rest, x.priority = .normal ∧ x.slot.isSome = true :=
        fun x hx => hnormal x (List.mem_cons_of_mem _ hx)
      have hlen : (c.inflight ++ item.slot.toList).length = (items ++ [item]).length := by
        obtain ⟨slot, hslot⟩ := Option.isSome_iff_exists.mp hslot
        rw [hslot, List.length_append, List.length_append, hi]
        rfl
      have hmore : (items ++ [item]).length ≤ env.settings.maxInflightMessages := by
        rw [List.length_append]
        exact Nat.succ_le_of_lt (hi ▸ hroom)
      have hfed : Fed env (items ++ [item] ++ rest) (drained env { c with
          queue := rest, queueBytes := c.queueBytes - item.sizeBytes
          inflight := c.inflight ++ item.slot.toList, sender := .getting
          wire := c.wire ++ [item.payload] }) :=
        fed_drained rest hnext rfl hbytes ho rfl hlen hmore
      rwa [List.append_assoc] at hfed
    · -- the window is full: it waits with the frame
      have hwait : waitForWindow env
          { c with queue := rest, queueBytes := c.queueBytes - item.sizeBytes } item = _ :=
        waitForWindow_full (Nat.not_lt.mpr hfull)
      rw [hwait] at hstep
      have hfed : Fed env (items ++ item :: rest) { c with
          queue := rest, queueBytes := c.queueBytes - item.sizeBytes
          windowEvent := false, sender := .waiting item } := by
        have hlen : items.length = env.settings.maxInflightMessages := by omega
        refine ⟨?_, hbytes, ho, ?_⟩
        · rw [List.drop_append, List.drop_eq_nil_of_le (by omega), List.nil_append,
            show env.settings.maxInflightMessages + 1 - items.length = 1 by omega]
          rfl
        · rw [if_neg (by rw [List.length_append, List.length_cons]; omega)]
          exact ⟨⟨item, rfl⟩, rfl⟩
      rw [drained_step hstep, drained_of_blocked hfed.blocked]
      exact hfed

theorem replayed_eq (env : Env) (channel : Channel) : ∀ (messages : List StreamEntry)
    (c : Connection), c.replayed env channel messages = { c with
      queue := c.queue ++ messages.map (replayItem env channel)
      queueBytes := c.queueBytes
        + ((messages.map (replayItem env channel)).map QueuedMessage.sizeBytes).sum
      accepted := c.accepted ++ messages.map (replayItem env channel) }
  | [], c => by simp [replayed]
  | e :: messages, c => by
    have hrest := replayed_eq env channel messages (c.put (replayItem env channel e))
    rw [replayed, List.foldl_cons]
    refine hrest.trans ?_
    simp [put, add_assoc]

/-- **The next channel is put in the queue, and the sender runs again.** -/
theorem Fed.replayed (h : c.Fed env items) (channel : Channel) (messages : List StreamEntry) :
    ((c.replayed env channel messages).drained env).Fed env
      (items ++ messages.map (replayItem env channel)) := by
  have hsender := h.sender
  have hbytes : (c.replayed env channel messages).queueBytes
      = (((c.replayed env channel messages).queue.map QueuedMessage.sizeBytes).sum : Nat) := by
    rw [replayed_eq, List.map_append, List.sum_append, h.bytes]
    push_cast
    rfl
  split at hsender
  · rename_i hle
    have hq : c.queue = [] := h.queue.trans (List.drop_eq_nil_of_le (by omega))
    refine fed_drained _ (fun item hitem => ?_) ?_ hbytes ?_ ?_ ?_ hle
    · obtain ⟨e, -, rfl⟩ := List.mem_map.mp hitem
      exact ⟨rfl, rfl⟩
    · rw [replayed_eq, hq, List.nil_append]
    · rw [replayed_eq]
      exact h.active
    · rw [replayed_eq]
      exact hsender.1
    · rw [replayed_eq]
      exact hsender.2
  · rename_i hgt
    have hfed : (c.replayed env channel messages).Fed env
        (items ++ messages.map (replayItem env channel)) := by
      refine ⟨?_, hbytes, ?_, ?_⟩
      · rw [replayed_eq, List.drop_append_of_le_length (by omega), h.queue]
      · rw [replayed_eq]
        exact h.active
      · rw [if_neg (by rw [List.length_append]; omega), replayed_eq]
        exact hsender
    rw [drained_of_blocked hfed.blocked]
    exact hfed

/-- What there is room for. -/
theorem Fed.fits_iff (h : c.Fed env items) (sizes : List Nat)
    (hroom : FitsQueue env ((items.map QueuedMessage.sizeBytes).drop
      (env.settings.maxInflightMessages + 1))) :
    c.Fits env sizes ↔ FitsQueue env ((items.map QueuedMessage.sizeBytes).drop
      (env.settings.maxInflightMessages + 1) ++ sizes) := by
  have hqueue : c.queue.map QueuedMessage.sizeBytes
      = (items.map QueuedMessage.sizeBytes).drop (env.settings.maxInflightMessages + 1) := by
    rw [h.queue, List.map_drop]
  rw [← hqueue] at hroom ⊢
  rw [Fits, FitsQueue, h.bytes, List.length_append, List.length_map, List.sum_append]
  refine ⟨fun hfits => ?_, fun hfits => Or.inr ⟨hfits.1, by exact_mod_cast hfits.2⟩⟩
  rcases hfits with rfl | ⟨hlen, hsum⟩
  · rw [FitsQueue, List.length_map] at hroom
    exact hroom
  · exact ⟨hlen, by exact_mod_cast hsum⟩

/-- A connection that has been idle. -/
theorem fed_idle (env : Env) (hactive : c.state = .active) (hqueue : c.queue = [])
    (hbytes : c.queueBytes = 0) (hwindow : c.inflight = []) (hsender : c.sender = .getting) : c.Fed env [] := by
  refine ⟨hqueue, by rw [hbytes, hqueue]; rfl, hactive, ?_⟩
  rw [if_pos (by exact Nat.zero_le _), hwindow]
  exact ⟨hsender, rfl⟩

end Fed

end Connection

section Absorbs

variable {env : Env} {p : Peer} {r : Redis}

theorem sizes_replayItem (env : Env) (channel : Channel) (messages : List StreamEntry) :
    (messages.map (replayItem env channel)).map QueuedMessage.sizeBytes
      = entrySizes env channel messages := by
  rw [List.map_map]
  rfl

/-- **The queue takes what a RESUME replays**, in numbers. -/
theorem absorbs_iff : ∀ (acks : List (Channel × Int)) {items : List QueuedMessage}
    {conn : Connection}, (conn.drained env).Fed env items →
      FitsQueue env ((items.map QueuedMessage.sizeBytes).drop
        (env.settings.maxInflightMessages + 1)) →
      (Absorbs env p r acks conn ↔ Staggers env (env.settings.maxInflightMessages + 1)
        (items.map QueuedMessage.sizeBytes) (replaySizes env p r acks))
  | [], _, _, _, _ => Iff.rfl
  | (channel, lastAck) :: rest, items, conn, hfed, hroom => by
    simp only [Absorbs, replaySizes]
    split
    · rw [Staggers, hfed.fits_iff _ hroom]
      refine and_congr_right fun hfits => ?_
      have hnext := hfed.replayed channel (replayOf (r.stream channel) lastAck).messages
      have hsizes : (items ++ (replayOf (r.stream channel) lastAck).messages.map
            (replayItem env channel)).map QueuedMessage.sizeBytes
          = items.map QueuedMessage.sizeBytes
            ++ entrySizes env channel (replayOf (r.stream channel) lastAck).messages := by
        rw [List.map_append, sizes_replayItem]
      have hrest := absorbs_iff rest hnext
      rw [hsizes] at hrest
      exact hrest hfits.drop_append
    · exact absorbs_iff rest hfed hroom

end Absorbs

/-! ## 3. Whatever the socket does -/

/-- The sender is resumed some number of times.  How far it gets depends on the socket, but it is
not left idle with something in the queue. -/
def IdleRuns (env : Env) (x : ConnId) (g g' : Gateway) : Prop :=
  SenderRuns env x g g' ∧ ∀ conn, g'.node.registry.byId.get? x = some conn →
    conn.sender = .getting → conn.queue = []

theorem IdleRuns.stay {env : Env} {x : ConnId} :
    ∀ g g', IdleRuns env x g g' → IdleRuns env x g' g' :=
  fun _ g' h => ⟨SenderRuns.refl g', h.2⟩

/-- Frames of these sizes were put in the queue, and the sender has taken some of them; if it has
taken none it is idle. -/
def Connection.Behind (before : List Nat) (c : Connection) : Prop :=
  ∃ j, j ≤ before.length ∧ c.queue.map QueuedMessage.sizeBytes = before.drop j ∧
    c.queueBytes = ((before.drop j).sum : Nat) ∧ (j = 0 → c.sender = .getting)

section Behind

variable {env : Env} {before : List Nat} {c c' : Connection}

theorem Connection.Behind.congr (h : c.Behind before) (hflow : c'.flow = c.flow) :
    c'.Behind before := by
  have : c'.flow.Behind before := hflow ▸ h
  exact this

theorem Connection.Behind.replayed (h : c.Behind before) (channel : Channel)
    (messages : List StreamEntry) :
    (c.replayed env channel messages).Behind (before ++ entrySizes env channel messages) := by
  obtain ⟨j, hj, hq, hb, hs⟩ := h
  rw [Connection.replayed_eq, sizes_replayItem]
  refine ⟨j, by rw [List.length_append]; omega, ?_, ?_, hs⟩
  · rw [List.map_append, hq, sizes_replayItem, List.drop_append_of_le_length hj]
  · rw [hb, List.drop_append_of_le_length hj, List.sum_append]
    push_cast
    rfl

theorem load_waitForWindow (env : Env) (c : Connection) (item : QueuedMessage) :
    (c.waitForWindow env item).load = c.load := by
  unfold Connection.waitForWindow Connection.release
  split
  · rfl
  · split <;> rfl

/-- The sender takes the frames in order. -/
theorem Connection.Behind.senderStep (h : c.Behind before) :
    ((c.senderStep env).getD c).Behind before := by
  obtain ⟨j, hj, hq, hb, hs⟩ := h
  have htaken : ∀ {item rest} {d : Connection}, c.queue = item :: rest → d.queue = rest →
      d.queueBytes = c.queueBytes - item.sizeBytes → d.Behind before := by
    intro item rest d hcons hrest hbytes
    rw [hcons, List.map_cons] at hq
    have hlt : j < before.length := by
      by_contra hge
      rw [List.drop_eq_nil_of_le (by omega)] at hq
      cases hq
    rw [List.drop_eq_getElem_cons hlt, List.cons.injEq] at hq
    rw [List.drop_eq_getElem_cons hlt, List.sum_cons, ← hq.1] at hb
    refine ⟨j + 1, hlt, by rw [hrest]; exact hq.2, ?_, fun h0 => absurd h0 (by omega)⟩
    rw [hbytes, hb]
    push_cast
    ring
  cases h : c.senderStep env with
  | none => exact ⟨j, hj, hq, hb, hs⟩
  | some c' =>
    rcases Connection.senderStep_cases h with
      ⟨item, rest, -, hcons, ⟨-, rfl⟩ | ⟨-, rfl⟩⟩ | ⟨item, hw, -, rfl⟩ | ⟨item, hw, rfl⟩
    · have hload := load_waitForWindow env
        { c with queue := rest, queueBytes := c.queueBytes - item.sizeBytes } item
      simp only [Connection.load, Prod.mk.injEq] at hload
      exact htaken hcons hload.2.1 hload.2.2
    · exact htaken hcons rfl rfl
    · have hload := load_waitForWindow env c item
      simp only [Connection.load, Prod.mk.injEq] at hload
      refine ⟨j, hj, by rw [Option.getD_some, hload.2.1, hq],
        by rw [Option.getD_some, hload.2.2, hb], fun h0 => absurd ((hs h0).symm.trans hw) (by simp)⟩
    · refine ⟨j, hj, ?_, ?_, fun h0 => absurd ((hs h0).symm.trans hw) (by simp)⟩ <;>
        rw [Option.getD_some, Connection.senderLoop] <;> split <;> assumption

/-- A sender that is not left idle has taken a frame. -/
theorem Connection.Behind.fits (h : c.Behind before) (hidle : c.sender = .getting → c.queue = [])
    {sizes : List Nat} (hroom : FitsQueue env (before.drop 1 ++ sizes)) : c.Fits env sizes := by
  obtain ⟨j, hj, hq, hb, hs⟩ := h
  have hsub : (before.drop j).Sublist (before.drop 1) := by
    rcases Nat.eq_zero_or_pos j with rfl | hpos
    · rw [hidle (hs rfl), List.drop_zero] at hq
      rw [← hq]
      exact List.nil_sublist _
    · exact List.drop_sublist_drop_left _ hpos
  have hfits := hroom.sublist (hsub.append (List.Sublist.refl sizes))
  rw [FitsQueue, List.length_append, List.sum_append, ← hq, List.length_map] at hfits
  rw [← hq] at hb
  exact Or.inr ⟨hfits.1, by rw [hb]; exact_mod_cast hfits.2⟩

end Behind

/-- Redis and the sockets work, the connection is ACTIVE, and frames of these sizes have been put in
its queue; the streams are `streams`. -/
structure Roomy (x : ConnId) (streams : Channel → List StreamEntry) (before : List Nat)
    (g : Gateway) : Prop where
  serving : Serving x g
  behind : ∃ conn, g.node.registry.byId.get? x = some conn ∧ conn.Behind before
  streams : g.redis.stream = streams

section Roomy

variable {α : Type} {env : Env} {x y : ConnId} {streams : Channel → List StreamEntry}
  {before : List Nat} {g g' : Gateway}

/-- Of the connection its flow counts. -/
theorem Roomy.of_get (h : Roomy x streams before g) (hup : g'.redis.faults = g.redis.faults)
    (hstream : g'.redis.stream = g.redis.stream)
    (hs : g'.node.socketFaults = g.node.socketFaults)
    (hc : (g'.node.registry.byId.get? x).map Connection.flow
      = (g.node.registry.byId.get? x).map Connection.flow) : Roomy x streams before g' := by
  have hstate : (g'.node.registry.byId.get? x).map Connection.state
      = (g.node.registry.byId.get? x).map Connection.state := by
    have := congrArg (Option.map Connection.state) hc
    rwa [Option.map_map, Option.map_map] at this
  obtain ⟨conn, hconn, hbehind⟩ := h.behind
  rw [hconn] at hc
  obtain ⟨conn', hconn', hflow⟩ := Option.map_eq_some_iff.mp hc
  exact ⟨h.serving.of_get hup hs hstate, ⟨conn', hconn', hbehind.congr hflow⟩,
    hstream.trans h.streams⟩

theorem Roomy.senderMove (h : Roomy x streams before g) :
    Roomy x streams before (senderMove env x g) := by
  obtain ⟨conn, hconn, hbehind⟩ := h.behind
  have hget : (Relay.senderMove env x g).node.registry.byId.get? x =
      some ((conn.senderStep env).getD conn) := by
    simp only [Relay.senderMove, setNode, Node.updateConn, Registry.get_updateConn, if_true, hconn]
    rfl
  refine ⟨h.serving.of_get rfl rfl ?_, ⟨_, hget, hbehind.senderStep⟩, h.streams⟩
  rw [hget, hconn, Option.map_some, Option.map_some, Connection.state_senderStep]

theorem Roomy.idleRuns (h : Roomy x streams before g) (hr : IdleRuns env x g g') :
    Roomy x streams before g' := by
  obtain ⟨⟨k, rfl⟩, -⟩ := hr
  induction k with
  | zero => exact h
  | succ k ih =>
    rw [Function.iterate_succ_apply']
    exact ih.senderMove

/-! The steps around a replay leave the queue alone. -/

theorem roomy_command {f : Redis → Except Exn α × Redis} (ha : ∀ r, ∃ a, (f r).1 = .ok a)
    (hf : ∀ r, (f r).2.faults = r.faults) (hs : ∀ r, (f r).2.stream = r.stream) :
    (withRedis (command f)).Safe (Roomy x streams before) := by
  have hq : (command f).Safe (fun r => r.faults = [] ∧ r.stream = streams) := by
    refine Prog.safe_atomic (fun r hr => ?_)
    rw [attempt_up f hr.1]
    exact ⟨⟨(hf r).trans hr.1, (hs r).trans hr.2⟩, ha r⟩
  refine hq.lift (fun _ hg => ⟨hg.serving.up, hg.streams⟩) (fun g r hg hr => ?_)
  exact hg.of_get (hr.1.trans hg.serving.up.symm) (hr.2.trans hg.streams.symm) rfl rfl

theorem roomy_locally (f : Node → Node) (hs : ∀ n, (f n).socketFaults = n.socketFaults)
    (hc : ∀ n, ((f n).registry.byId.get? x).map Connection.flow
      = (n.registry.byId.get? x).map Connection.flow) :
    (locally f).Safe (Roomy x streams before) :=
  Prog.safe_modify (fun g hg => hg.of_get rfl rfl (hs g.node) (hc g.node))

theorem roomy_sendText (frame : ServerFrame) :
    (Gateway.sendText y frame).Safe (Roomy x streams before) := by
  refine Prog.safe_atomic (fun g hg => ?_)
  have hrun : Node.sendText y frame g.node = (.ok (), g.node.write y frame) := by
    rw [Node.sendText, hg.serving.socket]
  rw [hrun]
  exact ⟨hg.of_get rfl rfl (socketFaults_write frame g.node) (map_write frame (fun _ _ => rfl)),
    (), rfl⟩

theorem roomy_subscribed (channel : Channel) :
    ((locally (Node.subscribe y channel)).bind fun _ => onLocalSubscribe env channel).Safe
      (Roomy x streams before) :=
  (roomy_locally (Node.subscribe y channel) (fun _ => rfl) (fun n =>
      map_frame (Registry.get_subscribe n.registry y x channel) (fun _ => rfl))).bind fun _ =>
    (roomy_locally (Node.countUp channel) (fun _ => rfl) (fun _ => rfl)).bind fun _ =>
      (roomy_command (fun _ => ⟨(), rfl⟩) (fun _ => rfl) (fun _ => rfl)).bind fun _ =>
        (roomy_command (fun _ => ⟨(), rfl⟩) (fun _ => rfl) (fun _ => rfl)).bind fun _ =>
          roomy_locally (Node.startListener channel) (socketFaults_startListener channel)
            (fun n => by rw [Node.registry_startListener])

end Roomy

section Branch

variable {env : Env} {p : Peer} {r₀ : Redis} {g : Gateway}

theorem roomy_stable {x : ConnId} {streams : Channel → List StreamEntry} {before : List Nat} :
    ∀ g g' : Gateway, Roomy x streams before g → IdleRuns env x g g' → Roomy x streams before g' :=
  fun _ _ h hr => h.idleRuns hr

/-- The XRANGE succeeds and reads the stream. -/
theorem wp_replay_read {before : List Nat} (channel : Channel) (lastAck : Int)
    (h : Roomy p.connectionId r₀.stream before g) :
    (withRedis (replayChannel channel lastAck)).Wp (IdleRuns env p.connectionId) (fun r g' =>
      r = .ok (replayOf (r₀.stream channel) lastAck) ∧
        Roomy p.connectionId r₀.stream before g') g := by
  intro g₁ h₁
  have hg₁ := h.idleRuns h₁
  show (Prog.lift redis setRedis ((Prog.ofExcept (attempt (xrange channel) g₁.redis).1).bind
    (fun entries => .ret (replayOf entries lastAck)))).Wp _ _
      (setRedis (attempt (xrange channel) g₁.redis).2 g₁)
  rw [attempt_up _ hg₁.serving.up]
  have hread : Roomy p.connectionId r₀.stream before
      (setRedis (xrange channel g₁.redis).2 g₁) := hg₁.of_get rfl rfl rfl rfl
  intro g₂ h₂
  refine ⟨?_, hread.idleRuns h₂⟩
  show Except.ok (replayOf (g₁.redis.stream channel) lastAck) = _
  rw [hg₁.streams]

/-- The replay of a channel for which there is room once a frame has been taken. -/
theorem wp_roomy_reattach (channel : Channel) (messages : List StreamEntry) {before : List Nat}
    (hroom : FitsQueue env (before.drop 1 ++ entrySizes env channel messages))
    (h : Roomy p.connectionId r₀.stream before g) :
    (reattach env p channel messages).Wp (IdleRuns env p.connectionId) (fun r g' =>
      (∃ u, r = .ok u) ∧ Roomy p.connectionId r₀.stream
        (before ++ entrySizes env channel messages) g') g := by
  refine Prog.wp_bind_moved IdleRuns.stay (Prog.wp_atomic fun g₁ g₂ h₁ h₂ => ?_)
  have hg₁ := h.idleRuns h₁
  obtain ⟨conn, hconn, hbehind⟩ := hg₁.behind
  have hfits := hbehind.fits (h₁.2 conn hconn) hroom
  rcases replayInto_fits env channel messages hconn with
    ⟨-, n, hinto, hconn', hsock⟩ | ⟨hnot, n, hinto⟩
  · rw [hinto] at h₂ ⊢
    refine ⟨fun _ _ => ?_, fun e he => absurd he (by simp)⟩
    have hafter : Roomy p.connectionId r₀.stream (before ++ entrySizes env channel messages)
        (setNode n g₁) := by
      refine ⟨hg₁.serving.of_get rfl hsock ?_, ⟨_, hconn', hbehind.replayed channel messages⟩,
        hg₁.streams⟩
      rw [show (setNode n g₁).node = n from rfl, hconn', hconn, Option.map_some, Option.map_some,
        state_replayed]
    exact (roomy_subscribed channel).wp roomy_stable (hafter.idleRuns h₂)
  · exact absurd hfits hnot

/-- **With room for each channel, the loop comes to its end.** -/
theorem wp_roomy_resumeChannels : ∀ (acks : List (Channel × Int)) (replayed : List (Channel × Nat))
    (gaps : List Channel) {before : List Nat} {g : Gateway},
      Staggers env 1 before (replaySizes env p r₀ acks) →
      Roomy p.connectionId r₀.stream before g →
      (resumeChannels env p acks replayed gaps).Wp (IdleRuns env p.connectionId) (fun r g' =>
        (∃ report, r = .ok report) ∧ ∃ after, Roomy p.connectionId r₀.stream after g') g
  | [], replayed, gaps, before, g, _, h => fun _ hr => ⟨⟨_, rfl⟩, before, h.idleRuns hr⟩
  | (channel, lastAck) :: rest, replayed, gaps, before, g, hroom, h => by
    unfold resumeChannels
    rw [replaySizes] at hroom
    by_cases hown : channelBelongsToTenant channel p.tenantId = true
    · rw [if_pos hown]
      refine Prog.wp_bind_moved IdleRuns.stay ((wp_replay_read channel lastAck h).mono ?_)
      rintro r s ⟨rfl, hs⟩
      refine ⟨fun result hresult => ?_, fun e he => absurd he (by simp)⟩
      obtain rfl := Except.ok.inj hresult
      cases hgap : (replayOf (r₀.stream channel) lastAck).gap with
      | true =>
        rw [hgap, if_neg (by simp)] at hroom
        rw [if_pos rfl]
        exact (roomy_sendText _).wp_bind roomy_stable IdleRuns.stay hs fun _ s' hs' =>
          wp_roomy_resumeChannels rest _ _ hroom hs'
      | false =>
        rw [hgap, if_pos ⟨hown, rfl⟩] at hroom
        rw [if_neg (by simp)]
        refine Prog.wp_bind_moved IdleRuns.stay
          ((wp_roomy_reattach channel _ hroom.1 hs).mono ?_)
        rintro r s ⟨⟨u, rfl⟩, hs⟩
        exact ⟨fun _ _ => wp_roomy_resumeChannels rest _ _ hroom.2 hs,
          fun e he => absurd he (by simp)⟩
    · rw [if_neg (fun h => hown h.1)] at hroom
      rw [if_neg hown]
      exact wp_roomy_resumeChannels rest replayed gaps hroom h

theorem wp_roomy_resume (acks : List (Channel × Int)) {before : List Nat}
    (hroom : Staggers env 1 before (replaySizes env p r₀ acks))
    (h : Roomy p.connectionId r₀.stream before g) :
    (resume env p acks).Wp (IdleRuns env p.connectionId) (fun r _ => r = .ok true) g := by
  refine Prog.wp_bind_moved IdleRuns.stay ((wp_roomy_resumeChannels acks [] [] hroom h).mono ?_)
  rintro r s ⟨⟨report, rfl⟩, after, hs⟩
  refine ⟨fun _ _ => ?_, fun e he => absurd he (by simp)⟩
  exact (roomy_sendText _).wp_bind roomy_stable IdleRuns.stay hs fun _ _ _ _ _ => rfl

end Branch

/-! ## 4. When a RESUME completes -/

/-- The RESUME has come to its end, RESUMED has been written, and every message that is to be
replayed has been enqueued. -/
def Completed (p : Peer) (acks : List (Channel × Int)) (conn : Connection) (g : Gateway)
    (r : Except Exn Bool) (g' : Gateway) : Prop :=
  r = .ok true ∧ ∃ replayed gaps conn', g'.node.registry.byId.get? p.connectionId = some conn' ∧
    .resumed p.sessionId replayed gaps ∈ conn'.wire.drop conn.wire.length ∧
    ∀ c last, (c, last) ∈ acks → channelBelongsToTenant c p.tenantId = true →
      (replayOf (g.redis.stream c) last).gap = false →
      (conn'.acceptedOn c).drop (conn.acceptedOn c).length =
        (replayOf (g.redis.stream c) last).messages.map (replayFrame c)

section Completed

variable {env : Env} {p : Peer} {fields : List (String × Json)} {sessionId : String}
  {acks : Dict Channel Int} {g : Gateway} {conn : Connection}

/-- A RESUME that returns has completed, whatever runs meanwhile. -/
theorem wp_completed (env : Env) (hparse : parseResume env fields = some (sessionId, acks))
    (hconn : g.node.registry.byId.get? p.connectionId = some conn) :
    (onResume env p fields).Wp (Meanwhile p.connectionId)
      (fun r g' => r = .ok true → Completed p acks.entries conn g r g') g := by
  have hrep := wp_resume_reported env (nodup_ownChannels p acks)
    (fun a ha => (mem_ownChannels.mp ha).2) hconn
  rw [← onResume_own hparse] at hrep
  refine hrep.mono ?_
  intro r g' hr hok
  obtain ⟨report, conn', hconn', hwire, hreported⟩ := hr true hok
  refine ⟨hok, report.1, report.2, conn', hconn', hwire, fun c last hmem hown hgap => ?_⟩
  exact hreported.enqueued hconn hconn' (mem_ownChannels.mpr ⟨hmem, hown⟩) (by simp [hgap])

theorem grows_senderRun (env : Env) : ∀ (n : Nat) (c : Connection),
    c.Grows (Connection.senderRun env n c)
  | 0, c => Connection.Grows.refl c
  | n + 1, c => by
    unfold Connection.senderRun
    split
    · rename_i c' h
      have hstep := Connection.grows_senderStep env c
      rw [h, Option.getD_some] at hstep
      exact hstep.trans (grows_senderRun env n c')
    · exact Connection.Grows.refl c

theorem share_senderRun (env : Env) (channel : Channel) : ∀ (n : Nat) (c : Connection),
    (Connection.senderRun env n c).share channel = c.share channel
  | 0, _ => rfl
  | n + 1, c => by
    unfold Connection.senderRun
    split
    · rename_i c' h
      have hstep := share_senderStep env channel c
      rw [h, Option.getD_some] at hstep
      exact (share_senderRun env channel n c').trans hstep
    · rfl

theorem meanwhile_senderTurn (env : Env) (x : ConnId) (g : Gateway) :
    Meanwhile x g (senderTurn env x g) := by
  refine ⟨Node.grows_updateConn (fun c => grows_senderRun env _ c), fun c => ?_⟩
  exact share_node (map_frame (Registry.get_updateConn _ _ _ _)
    (fun conn => share_senderRun env c _ conn)) Iff.rfl

/-- What the turns of the sender leave in the queue of an idle connection. -/
theorem absorbs_idle_iff (hg : Serving p.connectionId g)
    (hconn : g.node.registry.byId.get? p.connectionId = some conn) (hqueue : conn.queue = [])
    (hbytes : conn.queueBytes = 0) (hwindow : conn.inflight = []) (hidle : conn.sender = .getting)
    (entries : List (Channel × Int)) : Absorbs env p g.redis entries conn ↔
      Staggers env (env.settings.maxInflightMessages + 1) []
        (replaySizes env p g.redis entries) := by
  have hactive : conn.state = .active := by
    obtain ⟨conn', hconn', hactive⟩ := isActive_iff.mp hg.active
    rwa [Option.some.inj (hconn.symm.trans hconn')]
  have hfed := Connection.fed_idle env hactive hqueue hbytes hwindow hidle
  refine @absorbs_iff env p g.redis entries [] conn ?_ ⟨Nat.zero_le _, Nat.zero_le _⟩
  rw [Connection.drained_of_blocked hfed.blocked]
  exact hfed

/-- A channel that finds no room. -/
theorem onResume_refused (hparse : parseResume env fields = some (sessionId, acks))
    (hg : Serving p.connectionId g)
    (hconn : g.node.registry.byId.get? p.connectionId = some conn) (hqueue : conn.queue = [])
    (hbytes : conn.queueBytes = 0) (hwindow : conn.inflight = []) (hidle : conn.sender = .getting)
    (hnot : ¬ Staggers env (env.settings.maxInflightMessages + 1) []
      (replaySizes env p g.redis acks.entries)) :
    ((onResume env p fields).runWith (senderTurn env p.connectionId) g).1
      = .error .slowConsumer := by
  rw [← absorbs_idle_iff hg hconn hqueue hbytes hwindow hidle] at hnot
  simp only [onResume, hparse]
  rcases runWith_resume env acks.entries hg hconn with ⟨hyes, -⟩ | ⟨-, g', hrun⟩
  · exact absurd hyes hnot
  · rw [hrun]

end Completed

/-- **When a RESUME completes.**  Redis and the sockets work, and the connection is ACTIVE with an
empty queue, an empty window and an idle sender, which has its turn at each await.  If the socket
takes what is written, a turn lasts until the queue is empty or the window is full, and the RESUME
completes exactly if each channel finds room behind the frames that the window has not let out;
otherwise `SlowConsumerError` comes out.  If nothing is known of the socket, one frame has left the
queue: with room for each channel behind all the others but this one the RESUME completes in any
case. -/
theorem resume_completes_iff (env : Env) (p : Peer) (fields : List (String × Json))
    (sessionId : String) (acks : Dict Channel Int)
    (hparse : parseResume env fields = some (sessionId, acks)) (g : Gateway)
    (hg : Serving p.connectionId g) (conn : Connection)
    (hconn : g.node.registry.byId.get? p.connectionId = some conn) (hqueue : conn.queue = [])
    (hbytes : conn.queueBytes = 0) (hwindow : conn.inflight = []) (hidle : conn.sender = .getting) :
    let sizes := replaySizes env p g.redis acks.entries
    let after := (onResume env p fields).runWith (senderTurn env p.connectionId) g
    (Completed p acks.entries conn g after.1 after.2 ↔
      Staggers env (env.settings.maxInflightMessages + 1) [] sizes) ∧
    (¬ Staggers env (env.settings.maxInflightMessages + 1) [] sizes →
      after.1 = .error .slowConsumer) ∧
    (Staggers env 1 [] sizes → (onResume env p fields).Wp (IdleRuns env p.connectionId)
      (Completed p acks.entries conn g) g) := by
  intro sizes after
  have hcompleted := wp_completed env hparse hconn
  have hrefused := onResume_refused hparse hg hconn hqueue hbytes hwindow hidle
  have hprog : onResume env p fields = resume env p acks.entries := by
    simp only [onResume, hparse]
  refine ⟨⟨fun hdone => ?_, fun hroom => ?_⟩, hrefused, fun hroom => ?_⟩
  · by_contra hnot
    exact absurd ((hrefused hnot).symm.trans hdone.1) (by simp)
  · rw [← absorbs_idle_iff hg hconn hqueue hbytes hwindow hidle] at hroom
    rcases runWith_resume env acks.entries hg hconn with ⟨-, g', hrun, -⟩ | ⟨hnot, -⟩
    · rw [← hprog] at hrun
      exact hcompleted.runWith (meanwhile_senderTurn env p.connectionId) (congrArg Prod.fst hrun)
    · exact absurd hroom hnot
  · have hroomy : Roomy p.connectionId g.redis.stream [] g :=
      ⟨hg, ⟨conn, hconn, 0, le_refl _, by rw [hqueue]; rfl, hbytes, fun _ => hidle⟩, rfl⟩
    have hends := wp_roomy_resume acks.entries hroom hroomy
    rw [← hprog] at hends
    exact (hends.and (hcompleted.anti (fun _ _ h => h.1.meanwhile))).mono
      fun r g' h => h.2 h.1

/-- Two messages fit, whatever the socket does. -/
theorem two_messages_fit :
    ((onResume narrowEnv resumingPeer (resumeFrom 0)).runWith (senderTurn narrowEnv "x")
        waitingGateway).1 = .ok true ∧
      (onResume narrowEnv resumingPeer (resumeFrom 0)).Wp (IdleRuns narrowEnv "x")
        (fun r _ => r = .ok true) waitingGateway := by
  have hserving : Serving "x" waitingGateway :=
    ⟨by decide +kernel, by decide +kernel, by decide +kernel⟩
  have hiff := resume_completes_iff narrowEnv resumingPeer (resumeFrom 0) "s"
    (Dict.ofList [("t-a:c", 0)]) rfl waitingGateway hserving _ rfl rfl rfl rfl rfl
  exact ⟨(hiff.1.mpr (by decide +kernel)).1,
    (hiff.2.2 (by decide +kernel)).mono fun r g' h => h.1⟩

/-! ## 5. Two buffers that are not even full -/

/-- A channel that has seen `n` messages. -/
def history (n : Nat) : List StreamEntry :=
  (List.range n).map (fun i : Nat => (⟨"m", (i : Int) + 1, .obj [], 0⟩ : StreamEntry))

/-- Two channels with 600 messages each, within the default limit of 1000, and a client that has
just connected. -/
def crowdedGateway : Gateway :=
  ⟨{ stream := fun c => if c = "t-a:c" ∨ c = "t-a:d" then history 600 else [] },
    ({} : Node).add { newConnection "x" "s" "a" none with sender := .getting }⟩

/-- The client resumes both from the beginning. -/
def resumeBoth : List (String × Json) :=
  [("session_id", .str "s"),
    ("last_ack_by_channel", .obj [("t-a:c", .int 0), ("t-a:d", .int 0)])]

theorem sorted_history (n : Nat) :
    (history n).Pairwise (fun a b => a.sequence < b.sequence) := by
  rw [history, List.pairwise_map]
  exact List.pairwise_lt_range.imp (fun h => by simpa using h)

/-- From position 0 everything is replayed, and there is no gap. -/
theorem replayOf_history (n : Nat) :
    (replayOf (history n) 0).messages = history n ∧ (replayOf (history n) 0).gap = false := by
  refine ⟨?_, ?_⟩
  · rw [replayOf_messages 0 (sorted_history n), List.filter_eq_self]
    intro e he
    obtain ⟨i, -, rfl⟩ := List.mem_map.mp he
    simp only [decide_eq_true_eq]
    omega
  · rw [← Bool.not_eq_true, replayOf_gap_iff]
    exact fun h => h.2.1 rfl

theorem serving_crowded : Serving "x" crowdedGateway := ⟨rfl, rfl, rfl⟩

theorem length_history (n : Nat) : (history n).length = n := by simp [history]

theorem stream_crowded {c : Channel} (h : c = "t-a:c" ∨ c = "t-a:d") :
    crowdedGateway.redis.stream c = history 600 := if_pos h

theorem replaySizes_crowded :
    replaySizes (.plain {}) resumingPeer crowdedGateway.redis [("t-a:c", 0), ("t-a:d", 0)] =
      [entrySizes (.plain {}) "t-a:c" (history 600),
        entrySizes (.plain {}) "t-a:d" (history 600)] := by
  have hown : channelBelongsToTenant "t-a:c" resumingPeer.tenantId = true ∧
      channelBelongsToTenant "t-a:d" resumingPeer.tenantId = true := by decide +kernel
  have hreplay := replayOf_history 600
  simp only [replaySizes, stream_crowded (Or.inl rfl), stream_crowded (Or.inr rfl), hown.1, hown.2,
    hreplay.1, hreplay.2, and_self, if_true]

theorem length_entrySizes (env : Env) (channel : Channel) (n : Nat) :
    (entrySizes env channel (history n)).length = n := by
  rw [entrySizes, List.length_map, length_history]

/-- The window lets 100 frames out, and the sender waits with one more. -/
theorem not_staggers_of_length {a b : List Nat} (ha : a.length = 600) (hb : b.length = 600) :
    ¬ Staggers (.plain {}) ((Env.plain {}).settings.maxInflightMessages + 1) [] [a, b] := by
  intro h
  have hlen := h.2.1.1
  rw [List.length_append, List.length_drop, List.nil_append, ha, hb] at hlen
  exact absurd hlen (by decide)

/-- With the default settings, a RESUME of two channels with 600 messages each raises
`SlowConsumerError`: the sender takes 101 of the first 600. -/
theorem full_buffers_cannot_be_resumed :
    (∀ c, (crowdedGateway.redis.stream c).length ≤ ({} : Settings).channelBufferMaxMessages) ∧
      ((onResume (.plain {}) resumingPeer resumeBoth).runWith (senderTurn (.plain {}) "x")
        crowdedGateway).1 = .error .slowConsumer := by
  refine ⟨fun c => ?_, ?_⟩
  · by_cases h : c = "t-a:c" ∨ c = "t-a:d"
    · rw [stream_crowded h, length_history]
      decide
    · have hnil : crowdedGateway.redis.stream c = [] := if_neg h
      rw [hnil]
      exact Nat.zero_le _
  · have hparse : parseResume (.plain {}) resumeBoth =
        some ("s", Dict.ofList [("t-a:c", 0), ("t-a:d", 0)]) := rfl
    have hconn : crowdedGateway.node.registry.byId.get? "x" =
        some { newConnection "x" "s" "a" none with sender := .getting } := rfl
    have hrefused := onResume_refused (p := resumingPeer) hparse serving_crowded hconn rfl rfl rfl
      rfl
    have hsizes : replaySizes (.plain {}) resumingPeer crowdedGateway.redis
        (Dict.ofList [("t-a:c", (0 : Int)), ("t-a:d", 0)]).entries = _ := replaySizes_crowded
    rw [hsizes] at hrefused
    exact hrefused
      (not_staggers_of_length (length_entrySizes _ _ 600) (length_entrySizes _ _ 600))

end Relay
