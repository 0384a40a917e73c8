/-
# What RESUMED says

The RESUME branch goes through the channels the client names, one after the other.  A foreign
channel is skipped; a channel with a gap goes into `gaps`; every other one is replayed, attached and
entered in `replayed_by_channel` with the number of messages.  RESUMED carries the two lists.

For each channel the outcome is a function of what the connection had to do with it before and of
the stream (`Outcome`), whatever the other channels are and whatever the sender, the heartbeats and
other handlers do between the steps (`Meanwhile`).  Whether a channel that is reported as replayed
really got everything depends on the gap test, and the gap test does not look at position 0:

* `resume_honest_iff`: after publishes that followed each other, RESUMED is honest for every channel
  exactly if no message is gone from a channel whose position is 0;
* `resume_from_zero_is_partial`: a client without a position is told that all is well.
-/
import Mathlib
import Relay.Serialized
import Relay.Handover
import Relay.SlowConsumer
import Relay.Malformed

namespace Relay

open Gateway Redis

/-! ## 1. What the connection has to do with a channel -/

/-- The messages of the channel that the connection has accepted, whether it is subscribed, whether
the registry's index has it, and the stream. -/
structure ChannelShare where
  accepted : List MessageFrame
  subscribed : Bool
  indexed : Bool
  stream : List StreamEntry

namespace ChannelShare

/-- More messages are enqueued. -/
def enqueued (v : ChannelShare) (l : List MessageFrame) : ChannelShare :=
  { v with accepted := v.accepted ++ l }

/-- The connection is subscribed. -/
def attached (v : ChannelShare) : ChannelShare := { v with subscribed := true, indexed := true }

end ChannelShare

/-- The part that is kept in the connection. -/
def Connection.share (c : Channel) (conn : Connection) : List MessageFrame × Bool :=
  (conn.acceptedOn c, decide (c ∈ conn.subscriptions))

/-- The share of a registered connection. -/
def share (x : ConnId) (c : Channel) (g : Gateway) : Option ChannelShare :=
  ((g.node.registry.byId.get? x).map (Connection.share c)).map (fun s =>
    ⟨s.1, s.2, decide (x ∈ g.node.registry.subscribersOf c), g.redis.stream c⟩)

/-- What happens besides the RESUME: nothing is published or delivered, the subscriptions of the
connection are left alone, and it stays registered. -/
structure Meanwhile (x : ConnId) (g g' : Gateway) : Prop where
  grows : g.node.Grows x g'.node
  share : ∀ c, share x c g' = share x c g

/-- The connection's share of a channel is as before. -/
def ShareKept (x : ConnId) (c : Channel) (g g' : Gateway) : Prop :=
  ∀ v, share x c g = some v → share x c g' = some v

section Share

variable {α : Type} {env : Env} {x : ConnId} {c d : Channel} {g g' : Gateway} {n n' : Node}
  {v : ChannelShare}

theorem Meanwhile.refl (g : Gateway) : Meanwhile x g g := ⟨Node.Grows.refl x _, fun _ => rfl⟩

theorem Meanwhile.trans {g'' : Gateway} (h : Meanwhile x g g') (k : Meanwhile x g' g'') :
    Meanwhile x g g'' := ⟨h.grows.trans k.grows, fun c => (k.share c).trans (h.share c)⟩

theorem Meanwhile.kept (h : Meanwhile x g g') : ShareKept x c g g' :=
  fun _ hv => (h.share c).trans hv

theorem share_eq_some : share x c g = some v ↔ ∃ conn, g.node.registry.byId.get? x = some conn ∧
    v = ⟨conn.acceptedOn c, decide (c ∈ conn.subscriptions),
      decide (x ∈ g.node.registry.subscribersOf c), g.redis.stream c⟩ := by
  rw [share, Option.map_map, Option.map_eq_some_iff]
  exact exists_congr (fun conn => and_congr_right (fun _ => eq_comm))

theorem share_isSome {conn : Connection} (h : g.node.registry.byId.get? x = some conn) :
    ∃ v, share x c g = some v := ⟨_, share_eq_some.mpr ⟨conn, h, rfl⟩⟩

theorem share_stream (h : share x c g = some v) : v.stream = g.redis.stream c := by
  obtain ⟨conn, -, rfl⟩ := share_eq_some.mp h
  rfl

theorem kept_redis {r : Redis} (h : r.stream = g.redis.stream) : ShareKept x c g (setRedis r g) := by
  intro v hv
  obtain ⟨conn, hconn, rfl⟩ := share_eq_some.mp hv
  exact share_eq_some.mpr ⟨conn, hconn, by rw [show (setRedis r g).redis = r from rfl, h]; rfl⟩

theorem share_node (hconn : (n.registry.byId.get? x).map (Connection.share c) =
      (g.node.registry.byId.get? x).map (Connection.share c))
    (hindex : x ∈ n.registry.subscribersOf c ↔ x ∈ g.node.registry.subscribersOf c) :
    share x c (setNode n g) = share x c g := by
  simp only [share, setNode, hconn, hindex]

theorem kept_node (hconn : (n.registry.byId.get? x).map (Connection.share c) =
      (g.node.registry.byId.get? x).map (Connection.share c))
    (hindex : x ∈ n.registry.subscribersOf c ↔ x ∈ g.node.registry.subscribersOf c) :
    ShareKept x c g (setNode n g) := fun _ hv => (share_node hconn hindex).trans hv

theorem kept_command {f : Redis → Except Exn α × Redis} (h : ∀ r, (f r).2.stream = r.stream) :
    (withRedis (command f)).Keeps (fun _ => True) (ShareKept x c) := by
  have hq : (command f).Keeps (fun _ => True) (fun r r' : Redis => r'.stream = r.stream) := by
    refine Prog.keeps_atomic (fun r _ => ⟨trivial, ?_⟩)
    rcases attempt_cases f r with ⟨fs, hrun⟩ | ⟨fs, hrun⟩
    · rw [hrun]
    · rw [hrun]
      exact h _
  exact hq.lift (fun _ _ => trivial) (fun _ _ _ _ hs => ⟨trivial, kept_redis hs⟩)

theorem kept_locally {f : Node → Node} (h : ∀ g, ShareKept x c g (setNode (f g.node) g)) :
    (locally f).Keeps (fun _ => True) (ShareKept x c) :=
  Prog.keeps_modify (fun g _ => ⟨trivial, h g⟩)

theorem kept_sendText (y : ConnId) (frame : ServerFrame) :
    (Gateway.sendText y frame).Keeps (fun _ => True) (ShareKept x c) := by
  refine Prog.keeps_atomic (fun g _ => ⟨trivial, ?_⟩)
  have ho := Node.outbound_sendText y frame g.node
  refine kept_node ?_ (by rw [ho.subscribersOf])
  unfold Node.sendText
  split
  · rfl
  · exact map_write frame (fun _ _ => rfl)
  · exact map_write frame (fun _ _ => rfl)

theorem kept_onLocalSubscribe (channel : Channel) :
    (onLocalSubscribe env channel).Keeps (fun _ => True) (ShareKept x c) := by
  refine (kept_locally fun g => kept_node rfl Iff.rfl).bind fun _ =>
    (kept_command (fun _ => rfl)).bind fun _ => (kept_command (fun _ => rfl)).bind fun _ =>
      kept_locally fun g => ?_
  refine kept_node ?_ ?_ <;> rw [Node.registry_startListener]

theorem kept_replayChannel (channel : Channel) (lastAck : Int) :
    (withRedis (replayChannel channel lastAck)).Keeps (fun _ => True) (ShareKept x c) := by
  unfold withRedis replayChannel
  rw [Prog.bind_eq, Prog.lift_bind]
  exact (kept_command (fun _ => rfl)).bind fun _ => Prog.keeps_ret _

/-! ## 2. The replay and the subscription of one channel -/

/-- The replay puts its messages in the queue, all of them or as many as the queue takes, and
nothing on the wire. -/
theorem replayInto_accepts (env : Env) (x : ConnId) (d : Channel) : ∀ (l : List StreamEntry)
    {n : Node} {conn : Connection}, n.registry.byId.get? x = some conn →
      ∃ sent conn', (n.replayInto env x d l).2.registry.byId.get? x = some conn' ∧
        ((n.replayInto env x d l).1 = .ok () → sent = l) ∧
        conn'.accepted = conn.accepted ++ sent.map (replayItem env d) ∧
        conn'.subscriptions = conn.subscriptions ∧ conn'.wire = conn.wire
  | [], n, conn, hconn => ⟨[], conn, hconn, fun _ => rfl, by simp, rfl, rfl⟩
  | e :: l, n, conn, hconn => by
    rw [Node.replayInto_cons env d e l hconn]
    split
    · exact ⟨[], conn, hconn, fun h => absurd h (by simp), by simp, rfl, rfl⟩
    · obtain ⟨sent, conn', hconn', hall, hacc, hsubs⟩ :=
        replayInto_accepts env x d l (Node.get_updateConn_self hconn (conn.put (replayItem env d e)))
      refine ⟨e :: sent, conn', hconn', fun hok => by rw [hall hok], ?_, hsubs⟩
      rw [hacc, Connection.put_accepted, List.append_assoc]
      rfl

theorem acceptedOn_replayed {conn conn' : Connection} {sent : List StreamEntry}
    (h : conn'.accepted = conn.accepted ++ sent.map (replayItem env d)) :
    conn'.acceptedOn c = conn.acceptedOn c ++
      if d = c then sent.map (replayFrame c) else [] := by
  unfold Connection.acceptedOn
  rw [h, List.filterMap_append, List.filterMap_map]
  congr 1
  split
  · rename_i hd
    subst hd
    rw [← List.filterMap_eq_map]
    exact List.filterMap_congr (fun e _ => by simp [replayItem, ServerFrame.message?])
  · rename_i hd
    exact List.filterMap_eq_nil_iff.mpr (fun e _ => by simp [replayItem, hd])

theorem share_replayInto (env : Env) (d : Channel) (l : List StreamEntry)
    (h : share x c g = some v) :
    ∃ sent, ((g.node.replayInto env x d l).1 = .ok () → sent = l) ∧
      share x c (setNode (g.node.replayInto env x d l).2 g) =
        some (v.enqueued (if d = c then sent.map (replayFrame c) else [])) := by
  obtain ⟨conn, hconn, rfl⟩ := share_eq_some.mp h
  obtain ⟨sent, conn', hconn', hall, hacc, hsubs, -⟩ := replayInto_accepts env x d l hconn
  refine ⟨sent, hall, share_eq_some.mpr ⟨conn', hconn', ?_⟩⟩
  have ho := (outbound_replayInto env x d l g.node).subscribersOf c
  rw [acceptedOn_replayed hacc, hsubs, show (setNode (g.node.replayInto env x d l).2 g).node =
    (g.node.replayInto env x d l).2 from rfl, ho]
  rfl

theorem share_subscribe (d : Channel) (h : share x c g = some v) :
    share x c (setNode (g.node.subscribe x d) g) = some (if d = c then v.attached else v) := by
  obtain ⟨conn, hconn, rfl⟩ := share_eq_some.mp h
  refine share_eq_some.mpr ⟨{ conn with subscriptions := conn.subscriptions.add d }, ?_, ?_⟩
  · simp only [setNode, Node.subscribe, Registry.get_subscribe, hconn]
    rfl
  · simp only [setNode, Node.subscribe, Registry.mem_subscribersOf_subscribe, hconn, OSet.mem_add]
    by_cases hd : d = c
    · subst hd
      simp [ChannelShare.attached, Connection.acceptedOn]
    · simp [hd, Ne.symm hd, Connection.acceptedOn]

/-- Segments that keep the share keep it in this environment. -/
theorem wp_kept {q : Prog Gateway Exn α} (hq : q.Keeps (fun _ => True) (ShareKept x c))
    (h : share x c g = some v) :
    q.Wp (Meanwhile x) (fun _ g' => share x c g' = some v) g :=
  (Prog.wp_of_moves (A := fun s => share x c s = some v) (fun _ _ hs hr => hr.kept _ hs)
    (fun _ _ hs hr => hr _ hs) hq (Prog.Returns.any q) h).mono fun _ _ hs => hs.1

/-- Reattaching another channel does not touch this one. -/
theorem kept_reattach {p : Peer} (hne : d ≠ c) (messages : List StreamEntry) :
    (reattach env p d messages).Keeps (fun _ => True) (ShareKept p.connectionId c) := by
  refine (Prog.keeps_atomic fun g _ => ⟨trivial, fun v hv => ?_⟩).bind fun _ =>
    (kept_locally fun g v hv => ?_).bind fun _ => kept_onLocalSubscribe d
  · obtain ⟨sent, -, hshare⟩ := share_replayInto env d messages hv
    rw [hshare, if_neg hne, ChannelShare.enqueued, List.append_nil]
  · rw [share_subscribe d hv, if_neg hne]

end Share

/-! ## 3. The loop -/

section Loop

variable {env : Env} {p : Peer} {c : Channel} {g : Gateway} {v : ChannelShare}

/-- Foreign channels are as if they had not been named. -/
theorem resumeChannels_own (env : Env) (p : Peer) : ∀ (acks : List (Channel × Int))
    (replayed : List (Channel × Nat)) (gaps : List Channel),
      resumeChannels env p acks replayed gaps = resumeChannels env p
        (acks.filter (fun a => channelBelongsToTenant a.1 p.tenantId)) replayed gaps
  | [], _, _ => rfl
  | (channel, lastAck) :: rest, replayed, gaps => by
    have ih := resumeChannels_own env p rest
    rw [resumeChannels, List.filter_cons]
    by_cases hown : channelBelongsToTenant channel p.tenantId = true
    · simp only [hown, if_true, resumeChannels, ih]
    · simp only [hown, Bool.false_eq_true, if_false, ih]

/-- A channel that is not named is left alone. -/
theorem kept_resumeChannels : ∀ (acks : List (Channel × Int)) (replayed : List (Channel × Nat))
    (gaps : List Channel), c ∉ acks.map Prod.fst →
      (resumeChannels env p acks replayed gaps).Keeps (fun _ => True) (ShareKept p.connectionId c)
  | [], _, _, _ => trivial
  | (channel, lastAck) :: rest, replayed, gaps, hc => by
    rw [List.map_cons, List.mem_cons, not_or] at hc
    have hrest := fun replayed gaps => kept_resumeChannels rest replayed gaps hc.2
    unfold resumeChannels
    split
    · refine (kept_replayChannel channel lastAck).bind fun result => ?_
      split
      · exact (kept_sendText _ _).bind fun _ => hrest _ _
      · exact (kept_reattach (Ne.symm hc.1) _).bind fun _ => hrest _ _
    · exact hrest _ _

/-- Neither is it reported. -/
theorem resumeChannels_reports : ∀ (acks : List (Channel × Int)) (replayed : List (Channel × Nat))
    (gaps : List Channel), c ∉ acks.map Prod.fst →
      (resumeChannels env p acks replayed gaps).Returns (fun report =>
        (∀ k, (c, k) ∈ report.1 ↔ (c, k) ∈ replayed) ∧ (c ∈ report.2 ↔ c ∈ gaps))
  | [], _, _, _ => ⟨fun _ => Iff.rfl, Iff.rfl⟩
  | (channel, lastAck) :: rest, replayed, gaps, hc => by
    rw [List.map_cons, List.mem_cons, not_or] at hc
    have hrest := fun replayed gaps => resumeChannels_reports rest replayed gaps hc.2
    unfold resumeChannels
    split
    · refine (Prog.Returns.any _).bind fun result _ => ?_
      split
      · refine (Prog.Returns.any _).bind fun _ _ => (hrest _ _).mono fun report h => ⟨h.1, ?_⟩
        rw [h.2, List.mem_append, List.mem_singleton, or_iff_left hc.1]
      · refine (Prog.Returns.any _).bind fun _ _ => (hrest _ _).mono fun report h =>
          ⟨fun k => ?_, h.2⟩
        rw [h.1, List.mem_append, List.mem_singleton, or_iff_left (fun he => hc.1 (Prod.mk.inj he).1)]
    · exact hrest _ _

/-- The rest of the loop, once the channel is through or if it does not come. -/
theorem wp_elsewhere (env : Env) {acks : List (Channel × Int)} (hc : c ∉ acks.map Prod.fst)
    (replayed : List (Channel × Nat)) (gaps : List Channel) (h : share p.connectionId c g = some v) :
    (resumeChannels env p acks replayed gaps).Wp (Meanwhile p.connectionId) (fun r g' =>
      share p.connectionId c g' = some v ∧ ∀ report, r = .ok report →
        (∀ k, (c, k) ∈ report.1 ↔ (c, k) ∈ replayed) ∧ (c ∈ report.2 ↔ c ∈ gaps)) g :=
  Prog.wp_of_moves (G := ShareKept p.connectionId c) (fun _ _ hs hr => hr.kept _ hs)
    (fun _ _ hs hr => hr _ hs) (kept_resumeChannels acks replayed gaps hc)
    (resumeChannels_reports acks replayed gaps hc) h

/-- What becomes of a channel from the position `last`: it has a gap and is left alone, or its
messages beyond the position are enqueued and it is subscribed. -/
def Outcome (x : ConnId) (c : Channel) (last : Int) (v : ChannelShare) (g' : Gateway)
    (report : List (Channel × Nat) × List Channel) : Prop :=
  if (replayOf v.stream last).gap = true then
    share x c g' = some v ∧ (∀ k, (c, k) ∉ report.1) ∧ c ∈ report.2
  else
    share x c g' = some (v.enqueued ((replayOf v.stream last).messages.map (replayFrame c))).attached ∧
      (∀ k, (c, k) ∈ report.1 ↔ k = (replayOf v.stream last).messages.length) ∧ c ∉ report.2

/-- The XRANGE reads the stream of the share. -/
theorem wp_read (last : Int) (h : share p.connectionId c g = some v) :
    (withRedis (replayChannel c last)).Wp (Meanwhile p.connectionId) (fun r g' =>
      share p.connectionId c g' = some v ∧ ∀ result, r = .ok result →
        result = replayOf v.stream last) g := by
  intro g₁ h₁
  have hv := h₁.kept _ h
  show (Prog.lift redis setRedis ((Prog.ofExcept (attempt (xrange c) g₁.redis).1).bind
    (fun entries => .ret (replayOf entries last)))).Wp _ _ (setRedis (attempt (xrange c) g₁.redis).2 g₁)
  have hstream := share_stream hv
  rcases attempt_cases (xrange c) g₁.redis with ⟨fs, hrun⟩ | ⟨fs, hrun⟩
  · rw [hrun]
    exact fun g₂ h₂ => ⟨h₂.kept _ (kept_redis rfl _ hv), fun result hr => absurd hr (by simp)⟩
  · rw [hrun, hstream]
    intro g₂ h₂
    refine ⟨h₂.kept _ (kept_redis rfl _ hv), fun result hr => ?_⟩
    exact (Except.ok.inj hr).symm

/-- The replay of the channel, its subscription and its listener. -/
theorem wp_attach (messages : List StreamEntry) (h : share p.connectionId c g = some v) :
    (reattach env p c messages).Wp (Meanwhile p.connectionId) (fun r g' => r = .ok () →
      share p.connectionId c g' = some (v.enqueued (messages.map (replayFrame c))).attached) g := by
  have herr : ∀ (e : Exn) (s : Gateway), (Except.error e : Except Exn Unit) = .ok () →
      share p.connectionId c s = some (v.enqueued (messages.map (replayFrame c))).attached :=
    fun _ _ ha => absurd ha (by simp)
  refine Prog.wp_bind Meanwhile.refl herr (Prog.wp_atomic fun g₁ g₂ h₁ h₂ _ hok => ?_)
  obtain ⟨sent, hall, hshare⟩ := share_replayInto env c messages (h₁.kept _ h)
  obtain rfl := hall hok
  have hsent := h₂.kept _ hshare
  rw [if_pos rfl] at hsent
  refine Prog.wp_bind Meanwhile.refl herr fun g₃ h₃ g₄ h₄ _ _ => ?_
  have hsub := share_subscribe c (h₃.kept _ hsent)
  rw [if_pos rfl] at hsub
  refine (wp_kept (kept_onLocalSubscribe c) (h₄.kept _ hsub)).mono ?_
  exact fun _ _ hs _ => hs

/-- **The loop deals with every own channel it names**, whatever the other channels are. -/
theorem wp_outcome (env : Env) {last : Int} (hown : channelBelongsToTenant c p.tenantId = true) :
    ∀ (acks : List (Channel × Int)) (replayed : List (Channel × Nat)) (gaps : List Channel),
      (acks.map Prod.fst).Nodup → (c, last) ∈ acks → (∀ k, (c, k) ∉ replayed) → c ∉ gaps →
      ∀ {g : Gateway}, share p.connectionId c g = some v →
      (resumeChannels env p acks replayed gaps).Wp (Meanwhile p.connectionId)
        (fun r g' => ∀ report, r = .ok report → Outcome p.connectionId c last v g' report) g
  | (channel, lastAck) :: rest, replayed, gaps, hnd, hmem, hnr, hng, g, hv => by
    rw [List.map_cons, List.nodup_cons] at hnd
    have herr : ∀ (e : Exn) (s : Gateway) (a : List (Channel × Nat) × List Channel),
        (Except.error e : Except Exn _) = .ok a → Outcome p.connectionId c last v s a :=
      fun _ _ _ ha => absurd ha (by simp)
    unfold resumeChannels
    rcases eq_or_ne channel c with rfl | hne
    · have hlast : lastAck = last := by
        rcases List.mem_cons.mp hmem with heq | hmem
        · exact (Prod.mk.inj heq).2.symm
        · exact absurd (List.mem_map_of_mem (f := Prod.fst) hmem) hnd.1
      subst hlast
      rw [if_pos hown]
      refine Prog.wp_bind Meanwhile.refl herr ((wp_read lastAck hv).mono ?_)
      rintro r s ⟨hs, hresult⟩ result rfl
      obtain rfl := hresult result rfl
      split
      · -- a gap: the error is written, and the channel is left alone
        rename_i hgap
        refine Prog.wp_bind Meanwhile.refl herr ((wp_kept (kept_sendText _ _) hs).mono ?_)
        rintro r s hs _ -
        refine (wp_elsewhere env hnd.1 replayed (gaps ++ [channel]) hs).mono ?_
        rintro r s ⟨hs, hreport⟩ report rfl
        obtain ⟨hr, hg⟩ := hreport report rfl
        rw [Outcome, if_pos hgap]
        exact ⟨hs, fun k hk => hnr k ((hr k).mp hk), hg.mpr (by simp)⟩
      · rename_i hgap
        refine Prog.wp_bind Meanwhile.refl herr ((wp_attach _ hs).mono ?_)
        rintro r s hs _ rfl
        refine (wp_elsewhere env hnd.1 _ gaps (hs rfl)).mono ?_
        rintro r s ⟨hs, hreport⟩ report rfl
        obtain ⟨hr, hg⟩ := hreport report rfl
        rw [Outcome, if_neg hgap]
        refine ⟨hs, fun k => ?_, fun hc => hng (hg.mp hc)⟩
        rw [hr, List.mem_append, List.mem_singleton, or_iff_right (hnr k), Prod.mk.injEq]
        simp
    · -- another channel: its segments leave this one alone
      have hmem' : (c, last) ∈ rest := by
        rcases List.mem_cons.mp hmem with heq | hmem
        · exact absurd (Prod.mk.inj heq).1.symm hne
        · exact hmem
      split
      · refine Prog.wp_bind Meanwhile.refl herr
          ((wp_kept (kept_replayChannel channel lastAck) hv).mono ?_)
        rintro r s hs result -
        split
        · refine Prog.wp_bind Meanwhile.refl herr ((wp_kept (kept_sendText _ _) hs).mono ?_)
          rintro r s hs _ -
          refine wp_outcome env hown rest _ _ hnd.2 hmem' hnr (fun hc => hng ?_) hs
          exact (List.mem_append.mp hc).resolve_right (by simpa using Ne.symm hne)
        · refine Prog.wp_bind Meanwhile.refl herr ((wp_kept (kept_reattach hne _) hs).mono ?_)
          rintro r s hs _ -
          refine wp_outcome env hown rest _ _ hnd.2 hmem' (fun k hk => hnr k ?_) hng hs
          refine (List.mem_append.mp hk).resolve_right (fun h => hne ?_)
          exact (Prod.mk.inj (List.mem_singleton.mp h)).1.symm
      · exact wp_outcome env hown rest _ _ hnd.2 hmem' hnr hng hv

end Loop

/-! ## 4. The whole branch -/

/-- What the loop has done about the own channels `acks` since `g`, and about the others. -/
structure Reported (x : ConnId) (acks : List (Channel × Int)) (g g' : Gateway)
    (report : List (Channel × Nat) × List Channel) : Prop where
  others : ∀ c, c ∉ acks.map Prod.fst → ∀ v, share x c g = some v →
    share x c g' = some v ∧ (∀ k, (c, k) ∉ report.1) ∧ c ∉ report.2
  named : ∀ c last, (c, last) ∈ acks → ∀ v, share x c g = some v → Outcome x c last v g' report
  grows : g.node.Grows x g'.node

section Reported

variable {env : Env} {p : Peer} {x : ConnId} {acks : List (Channel × Int)} {g g' g'' : Gateway}
  {report : List (Channel × Nat) × List Channel}

theorem Reported.kept (h : Reported x acks g g' report) (hk : ∀ c, ShareKept x c g' g'')
    (hg : g'.node.Grows x g''.node) : Reported x acks g g'' report := by
  refine ⟨fun c hc v hv => ?_, fun c last hmem v hv => ?_, h.grows.trans hg⟩
  · obtain ⟨hs, hrep⟩ := h.others c hc v hv
    exact ⟨hk c _ hs, hrep⟩
  · have ho := h.named c last hmem v hv
    unfold Outcome at ho ⊢
    by_cases hgap : (replayOf v.stream last).gap = true
    · rw [if_pos hgap] at ho ⊢
      exact ⟨hk c _ ho.1, ho.2⟩
    · rw [if_neg hgap] at ho ⊢
      exact ⟨hk c _ ho.1, ho.2⟩

/-- The loop over own channels, for all of them together. -/
theorem wp_reported (hnd : (acks.map Prod.fst).Nodup)
    (hown : ∀ a ∈ acks, channelBelongsToTenant a.1 p.tenantId = true) {conn : Connection}
    (hconn : g.node.registry.byId.get? p.connectionId = some conn) :
    (resumeChannels env p acks [] []).Wp (Meanwhile p.connectionId) (fun r g' =>
      ∀ report, r = .ok report → Reported p.connectionId acks g g' report) g := by
  have hothers := Prog.Wp.forall (fun c : { c // c ∉ acks.map Prod.fst } =>
    wp_elsewhere env (v := (share_isSome (c := c.1) hconn).choose) c.2 [] []
      (share_isSome hconn).choose_spec)
  have hnamed := Prog.Wp.forall (fun a : { a // a ∈ acks } =>
    wp_outcome env (v := (share_isSome (c := a.1.1) hconn).choose) (hown a.1 a.2) acks [] []
      hnd a.2 (by simp) (by simp) (share_isSome hconn).choose_spec)
  have hkeeps : (resumeChannels env p acks [] []).Keeps (fun _ => True)
      (Attaching env p.connectionId (fun c => c ∈ acks.map Prod.fst)) :=
    resumeChannels_attaching acks [] []
  have hgrows := Prog.wp_of_moves (A := fun s => g.node.Grows p.connectionId s.node)
    (fun _ _ hs (hr : Meanwhile p.connectionId _ _) => hs.trans hr.grows)
    (fun _ _ hs hr => hs.trans hr.grows) hkeeps (Prog.Returns.any _) (Node.Grows.refl _ _)
  refine (hothers.and (hnamed.and hgrows)).mono ?_
  rintro r s ⟨h1, h2, h3, -⟩ report rfl
  refine ⟨fun c hc v hv => ?_, fun c last hmem v hv => ?_, h3⟩
  · obtain ⟨hs, hrep⟩ := h1 ⟨c, hc⟩
    obtain ⟨hr, hg⟩ := hrep report rfl
    have hsame := (share_isSome (c := c) hconn).choose_spec.symm.trans hv
    exact ⟨hs.trans hsame, fun k hk => by simpa using (hr k).mp hk, fun hc' => by simpa using hg.mp hc'⟩
  · have ho := h2 ⟨(c, last), hmem⟩ report rfl
    have hsame := (share_isSome (c := c) hconn).choose_spec.symm.trans hv
    rwa [Option.some.inj hsame] at ho

/-- The branch: the loop, and then RESUMED with what it found. -/
theorem wp_resume_reported (env : Env) (hnd : (acks.map Prod.fst).Nodup)
    (hown : ∀ a ∈ acks, channelBelongsToTenant a.1 p.tenantId = true) {conn : Connection}
    (hconn : g.node.registry.byId.get? p.connectionId = some conn) :
    (resume env p acks).Wp (Meanwhile p.connectionId) (fun r g' => ∀ b, r = .ok b →
      ∃ report conn', g'.node.registry.byId.get? p.connectionId = some conn' ∧
        .resumed p.sessionId report.1 report.2 ∈ conn'.wire.drop conn.wire.length ∧
        Reported p.connectionId acks g g' report) g := by
  refine Prog.wp_bind Meanwhile.refl (fun _ _ _ hb => absurd hb (by simp))
    ((wp_reported hnd hown hconn).mono ?_)
  rintro r s hs report rfl
  refine Prog.wp_bind Meanwhile.refl (fun _ _ _ hb => absurd hb (by simp))
    (Prog.wp_atomic fun g₁ g₂ h₁ h₂ _ hok => fun g₃ h₃ _ _ => ?_)
  have hrep₁ := (hs report rfl).kept (fun c => h₁.kept) h₁.grows
  obtain ⟨conn₁, hconn₁, hgrow₁⟩ := hrep₁.grows conn hconn
  have hconn₂ := Node.wire_sendText hconn₁ hok
  have hmid : Reported p.connectionId acks g
      (setNode (g₁.node.sendText p.connectionId (.resumed p.sessionId report.1 report.2)).2 g₁)
      report := by
    refine hrep₁.kept (fun c => ?_) (Node.grows_sendText _ _)
    exact (kept_sendText p.connectionId _ g₁ trivial).2.1
  have hrep₃ := (hmid.kept (fun c => h₂.kept) h₂.grows).kept (fun c => h₃.kept) h₃.grows
  obtain ⟨conn₃, hconn₃, hgrow₃⟩ := (h₂.grows.trans h₃.grows) _ hconn₂
  refine ⟨report, conn₃, hconn₃, ?_, hrep₃⟩
  obtain ⟨l₁, hl₁⟩ := hgrow₁.wire
  obtain ⟨l₃, hl₃⟩ := hgrow₃.wire
  rw [← hl₃, ← hl₁]
  simp

end Reported

/-- What RESUMED says about the channels, and what has become of them, messages published in the
past apart: a foreign or unnamed channel is neither reported nor touched; an own channel is in
exactly one of the two lists; in `gaps` it is left alone; in `replayed` it is subscribed, and the
count is the number of messages enqueued. -/
structure Accounted (p : Peer) (acks : List (Channel × Int)) (g g' : Gateway)
    (report : List (Channel × Nat) × List Channel) : Prop where
  others : ∀ c, (channelBelongsToTenant c p.tenantId = false ∨ c ∉ acks.map Prod.fst) →
    share p.connectionId c g' = share p.connectionId c g ∧ c ∉ report.1.map Prod.fst ∧ c ∉ report.2
  once : ∀ c ∈ acks.map Prod.fst, channelBelongsToTenant c p.tenantId = true →
    Xor (c ∈ report.2) (c ∈ report.1.map Prod.fst)
  gaps : ∀ c ∈ report.2, share p.connectionId c g' = share p.connectionId c g
  replayed : ∀ c k, (c, k) ∈ report.1 → ∃ v sent, share p.connectionId c g = some v ∧
    share p.connectionId c g' = some (v.enqueued sent).attached ∧ sent.length = k

/-- What a message says, its time apart: number, id and payload. -/
def MessageFrame.content (m : MessageFrame) : Int × String × Json :=
  (m.sequence, m.messageId, m.payload)

/-- What was enqueued for a replayed channel is everything that was ever published beyond the
position. -/
def Complete (p : Peer) (acks : List (Channel × Int)) (run : List (Nat × PublishCall))
    (g g' : Gateway) (report : List (Channel × Nat) × List Channel) : Prop :=
  ∀ c last, (c, last) ∈ acks → ∀ k, (c, k) ∈ report.1 → ∀ v v' sent,
    share p.connectionId c g = some v → share p.connectionId c g' = some v' →
      v'.accepted = v.accepted ++ sent →
        sent.map MessageFrame.content =
          (numbered (callsOn c run)).filter (fun m => decide (last < m.1))

/-- Nothing beyond the position is gone where the gap test does not look: from position 0, and in an
empty stream. -/
def NothingUnseen (p : Peer) (acks : List (Channel × Int)) (r : Redis) : Prop :=
  ∀ c last, (c, last) ∈ acks → channelBelongsToTenant c p.tenantId = true →
    (last = 0 ∨ r.stream c = []) → (lost r c : Int) ≤ last

/-- The own channels of a RESUME. -/
def ownChannels (p : Peer) (acks : List (Channel × Int)) : List (Channel × Int) :=
  acks.filter (fun a => channelBelongsToTenant a.1 p.tenantId)

section Report

variable {p : Peer} {acks : List (Channel × Int)} {g g' : Gateway}
  {report : List (Channel × Nat) × List Channel} {conn : Connection}

theorem mem_ownChannels {a : Channel × Int} :
    a ∈ ownChannels p acks ↔ a ∈ acks ∧ channelBelongsToTenant a.1 p.tenantId = true :=
  List.mem_filter

theorem nodup_ownChannels (p : Peer) (acks : Dict Channel Int) :
    ((ownChannels p acks.entries).map Prod.fst).Nodup :=
  acks.nodup.sublist (List.filter_sublist.map _)

/-- The RESUME branch on its own channels. -/
theorem onResume_own {env : Env} {fields : List (String × Json)} {sessionId : String}
    {acks : Dict Channel Int} (h : parseResume env fields = some (sessionId, acks)) :
    onResume env p fields = resume env p (ownChannels p acks.entries) := by
  simp only [onResume, h, resume]
  rw [resumeChannels_own]
  rfl

theorem mem_keys {κ ν : Type} {k : κ} {l : List (κ × ν)} :
    k ∈ l.map Prod.fst ↔ ∃ a, (k, a) ∈ l := by
  simp

/-- A channel that RESUMED mentions is an own one that was named. -/
theorem Reported.mentioned (h : Reported p.connectionId (ownChannels p acks) g g' report)
    (hconn : g.node.registry.byId.get? p.connectionId = some conn) {c : Channel}
    (hc : (∃ k, (c, k) ∈ report.1) ∨ c ∈ report.2) :
    ∃ last v, (c, last) ∈ ownChannels p acks ∧ share p.connectionId c g = some v ∧
      Outcome p.connectionId c last v g' report := by
  obtain ⟨v, hv⟩ := share_isSome (c := c) hconn
  by_cases hkey : c ∈ (ownChannels p acks).map Prod.fst
  · obtain ⟨last, hlast⟩ := mem_keys.mp hkey
    exact ⟨last, v, hlast, hv, h.named c last hlast v hv⟩
  · obtain ⟨-, hnr, hng⟩ := h.others c hkey v hv
    rcases hc with ⟨k, hk⟩ | hc
    · exact absurd hk (hnr k)
    · exact absurd hc hng

theorem Reported.accounted (h : Reported p.connectionId (ownChannels p acks) g g' report)
    (hconn : g.node.registry.byId.get? p.connectionId = some conn) :
    Accounted p acks g g' report := by
  refine ⟨fun c hc => ?_, fun c hc hown => ?_, fun c hc => ?_, fun c k hk => ?_⟩
  · obtain ⟨v, hv⟩ := share_isSome (c := c) hconn
    have hkey : c ∉ (ownChannels p acks).map Prod.fst := fun hkey => by
      obtain ⟨last, hlast⟩ := mem_keys.mp hkey
      obtain ⟨hmem, hown⟩ := mem_ownChannels.mp hlast
      rcases hc with hforeign | hnot
      · exact absurd (hown.symm.trans hforeign) (by simp)
      · exact hnot (mem_keys.mpr ⟨last, hmem⟩)
    obtain ⟨hs, hnr, hng⟩ := h.others c hkey v hv
    exact ⟨hs.trans hv.symm, fun hk => (mem_keys.mp hk).elim hnr, hng⟩
  · obtain ⟨last, hlast⟩ := mem_keys.mp hc
    obtain ⟨v, hv⟩ := share_isSome (c := c) hconn
    have ho := h.named c last (mem_ownChannels.mpr ⟨hlast, hown⟩) v hv
    unfold Outcome at ho
    split at ho
    · exact Or.inl ⟨ho.2.2, fun hk => (mem_keys.mp hk).elim ho.2.1⟩
    · exact Or.inr ⟨mem_keys.mpr ⟨_, (ho.2.1 _).mpr rfl⟩, ho.2.2⟩
  · obtain ⟨last, v, -, hv, ho⟩ := h.mentioned hconn (Or.inr hc)
    unfold Outcome at ho
    split at ho
    · exact ho.1.trans hv.symm
    · exact absurd hc ho.2.2
  · obtain ⟨last, v, -, hv, ho⟩ := h.mentioned hconn (Or.inl ⟨k, hk⟩)
    unfold Outcome at ho
    split at ho
    · exact absurd hk (ho.2.1 k)
    · exact ⟨v, _, hv, ho.1, by rw [List.length_map, (ho.2.1 k).mp hk]⟩

/-- Leaving the first `k` elements out makes no difference exactly if none of them is selected. -/
theorem filter_drop_eq_iff {α : Type} {l : List α} {k : Nat} {q : α → Bool} :
    (l.drop k).filter q = l.filter q ↔ ∀ a ∈ l.take k, q a = false := by
  conv_lhs => rhs; rw [← List.take_append_drop k l, List.filter_append]
  rw [List.self_eq_append_left, List.filter_eq_nil_iff]
  simp

/-- The replay of a channel is complete exactly if nothing beyond the position is gone. -/
theorem replay_complete_from {c : Channel} {calls : List PublishCall} {r : Redis}
    (h : Serial c calls r) {last : Int} (hpos : 0 ≤ last) :
    ((replayOf (r.stream c) last).messages.map (replayFrame c)).map MessageFrame.content =
      (numbered calls).filter (fun m => decide (last < m.1)) ↔ (lost r c : Int) ≤ last := by
  have hcontent : ((replayOf (r.stream c) last).messages.map (replayFrame c)).map
      MessageFrame.content = ((numbered calls).drop (lost r c)).filter
        (fun m => decide (last < m.1)) := by
    rw [replayOf_messages last h.sorted, List.map_map, ← h.stream, List.filter_map]
    rfl
  have hlen := h.length
  have hle : lost r c ≤ calls.length := by omega
  have hgone := exists_take_numbered hle hpos
  rw [hcontent, filter_drop_eq_iff, ← not_lt, ← hgone]
  simp

theorem Reported.complete_iff {run : List (Nat × PublishCall)}
    (h : Reported p.connectionId (ownChannels p acks) g g' report)
    (hconn : g.node.registry.byId.get? p.connectionId = some conn)
    (hser : ∀ c, Serial c (callsOn c run) g.redis) (hpos : ∀ c last, (c, last) ∈ acks → 0 ≤ last) :
    Complete p acks run g g' report ↔ NothingUnseen p acks g.redis := by
  constructor
  · intro hall c last hmem hown hblind
    by_contra hlost
    obtain ⟨v, hv⟩ := share_isSome (c := c) hconn
    have ho := h.named c last (mem_ownChannels.mpr ⟨hmem, hown⟩) v hv
    have hgap : ¬ (replayOf v.stream last).gap = true := by
      rw [share_stream hv, (hser c).gap_iff (hpos c last hmem)]
      rintro ⟨hne, h0, -⟩
      exact hblind.elim h0 hne
    rw [Outcome, if_neg hgap, share_stream hv] at ho
    refine hlost ((replay_complete_from (hser c) (hpos c last hmem)).mp ?_)
    exact hall c last hmem _ ((ho.2.1 _).mpr rfl) v _ _ hv ho.1 rfl
  · intro hcond c last hmem k hk v v' sent hv hv' hsent
    obtain ⟨_, _, hmem', _⟩ := h.mentioned hconn (Or.inl ⟨k, hk⟩)
    have hown := (mem_ownChannels.mp hmem').2
    have ho := h.named c last (mem_ownChannels.mpr ⟨hmem, hown⟩) v hv
    have hgap : ¬ (replayOf v.stream last).gap = true := fun hgap => by
      rw [Outcome, if_pos hgap] at ho
      exact ho.2.1 k hk
    rw [Outcome, if_neg hgap, share_stream hv] at ho
    obtain rfl := Option.some.inj (hv'.symm.trans ho.1)
    obtain rfl := List.append_cancel_left hsent
    refine (replay_complete_from (hser c) (hpos c last hmem)).mpr ?_
    -- where the gap test looks, it has found nothing
    by_cases hblind : last = 0 ∨ g.redis.stream c = []
    · exact hcond c last hmem hown hblind
    · rw [not_or] at hblind
      rw [share_stream hv, (hser c).gap_iff (hpos c last hmem)] at hgap
      have hlen := (hser c).length
      have hle : lost g.redis c ≤ (callsOn c run).length := by omega
      rw [exists_take_numbered hle (hpos c last hmem)] at hgap
      exact not_lt.mp (fun hlt => hgap ⟨hblind.2, hblind.1, hlt⟩)

end Report

/-- **When RESUMED can be believed.**  Publishes have followed each other, with any buffer sizes and
age trims; then a RESUME is handled, while the rest of the process does what it likes apart from
publishing and delivering.  Foreign channels are as if they had not been named.  If the branch
completes, RESUMED is on the wire and accounts for every channel.  That the replayed channels got
everything published beyond their positions holds exactly if nothing is gone where the gap test does
not look: from position 0, or where nothing is left. -/
theorem resume_honest_iff (env : Env) (r₀ : Redis) (h₀ : r₀.Blank) (run : List (Nat × PublishCall))
    (node : Node) (p : Peer) (conn : Connection)
    (hconn : node.registry.byId.get? p.connectionId = some conn) (fields : List (String × Json))
    (sessionId : String) (acks : Dict Channel Int)
    (hparse : parseResume env fields = some (sessionId, acks))
    (hpos : ∀ c last, (c, last) ∈ acks.entries → 0 ≤ last) :
    onResume env p fields = resume env p (ownChannels p acks.entries) ∧
    (onResume env p fields).Wp (Meanwhile p.connectionId) (fun r g' => ∀ b, r = .ok b →
      ∃ report conn', g'.node.registry.byId.get? p.connectionId = some conn' ∧
        .resumed p.sessionId report.1 report.2 ∈ conn'.wire.drop conn.wire.length ∧
        Accounted p acks.entries ⟨publishSerially env r₀ run, node⟩ g' report ∧
        (Complete p acks.entries run ⟨publishSerially env r₀ run, node⟩ g' report ↔
          NothingUnseen p acks.entries (publishSerially env r₀ run)))
      ⟨publishSerially env r₀ run, node⟩ := by
  refine ⟨onResume_own hparse, ?_⟩
  rw [onResume_own hparse]
  refine (wp_resume_reported env (nodup_ownChannels p acks)
    (fun a ha => (mem_ownChannels.mp ha).2) hconn).mono ?_
  intro r g' hr b hb
  obtain ⟨report, conn', hconn', hwire, hrep⟩ := hr b hb
  exact ⟨report, conn', hconn', hwire, hrep.accounted hconn,
    hrep.complete_iff hconn (serial_run env h₀ run).2 hpos⟩

/-! ## 5. A client without a position -/

/-- A buffer for one message. -/
def tightEnv : Env := .plain { channelBufferMaxMessages := 1 }

/-- A client that has just connected. -/
def resumingPeer : Peer := ⟨"x", "s", "a", none⟩

/-- Two messages were published on a channel that keeps one. -/
def trimmedGateway : Gateway :=
  ⟨publishSerially tightEnv {} twoInOrder, ({} : Node).add (newConnection "x" "s" "a" none)⟩

/-- A RESUME that names the channel. -/
def resumeFrom (last : Int) : List (String × Json) :=
  [("session_id", .str "s"), ("last_ack_by_channel", .obj [("t-a:c", .int last)])]

/-- What RESUMED carries. -/
def ServerFrame.resumed? : ServerFrame → Option (List (Channel × Nat) × List Channel)
  | .resumed _ replayed gaps => some (replayed, gaps)
  | _ => none

/-- The connection after a RESUME that nothing disturbs. -/
def resumedConn (last : Int) : Option Connection :=
  ((onResume tightEnv resumingPeer (resumeFrom last)).run trimmedGateway).2.node.registry.byId.get? "x"

/-- From position 0 the first message is missing, and RESUMED lists the channel as replayed, with
one message and no gap. -/
theorem resume_from_zero_is_partial :
    (resumedConn 0).map (fun conn => conn.wire.map ServerFrame.resumed?) =
        some [some ([("t-a:c", 1)], [])] ∧
      (resumedConn 0).map (fun conn => (conn.acceptedOn "t-a:c").map MessageFrame.messageId) =
        some ["m2"] ∧
      (numbered (callsOn "t-a:c" twoInOrder)).map (fun m => (m.1, m.2.1)) =
        [(1, "m1"), (2, "m2")] := by
  refine ⟨?_, ?_, ?_⟩ <;> decide +kernel

/-- From position 1 nothing is missing, whatever the rest of the process does. -/
theorem resume_from_one_is_complete :
    (onResume tightEnv resumingPeer (resumeFrom 1)).Wp (Meanwhile "x") (fun r g' => ∀ b, r = .ok b →
      ∃ report conn', g'.node.registry.byId.get? "x" = some conn' ∧
        .resumed "s" report.1 report.2 ∈ conn'.wire ∧
        Accounted resumingPeer [("t-a:c", 1)] trimmedGateway g' report ∧
        Complete resumingPeer [("t-a:c", 1)] twoInOrder trimmedGateway g' report)
      trimmedGateway := by
  have hpos : ∀ c last, (c, last) ∈ (Dict.ofList [("t-a:c", (1 : Int))]).entries → 0 ≤ last := by
    intro c last hmem
    obtain ⟨rfl, rfl⟩ := Prod.mk.inj (List.mem_singleton.mp hmem)
    decide
  have hleft : ¬ trimmedGateway.redis.stream "t-a:c" = [] := by
    intro hnil
    have hlen : (trimmedGateway.redis.stream "t-a:c").length = 1 := by decide +kernel
    rw [hnil] at hlen
    exact absurd hlen (by simp)
  obtain ⟨-, hwp⟩ := resume_honest_iff tightEnv {} blank_empty twoInOrder trimmedGateway.node
    resumingPeer (newConnection "x" "s" "a" none) rfl (resumeFrom 1) "s" (Dict.ofList [("t-a:c", 1)])
    rfl hpos
  refine hwp.mono fun r g' hr b hb => ?_
  obtain ⟨report, conn', hconn', hwire, hacc, hiff⟩ := hr b hb
  refine ⟨report, conn', hconn', List.mem_of_mem_drop hwire, hacc, hiff.mpr ?_⟩
  intro c last hmem _ hblind
  obtain ⟨rfl, rfl⟩ := Prod.mk.inj (List.mem_singleton.mp hmem)
  exact absurd hblind (not_or.mpr ⟨by decide, hleft⟩)

end Relay
