/-
# Handlers run one at a time, with Redis up

The handler's programs when nothing else runs and no command is lost: what a SUBSCRIBE, an
UNSUBSCRIBE, a RESUME and a cleanup leave behind in the process.  Every program is first reduced
to a function on the node (`Node.attached`, `Node.detached`, `Node.released`); what it does to
Redis is summed up by `Side`, which keeps streams, topics and subscriptions.

Failures that are not Redis's stay: a socket may refuse any write, and a full queue may refuse a
replayed message.
-/
import Mathlib
import Relay.Effects
import Relay.Replay

namespace Relay

open Gateway Redis

/-! ## 1. Redis programs -/

theorem run_quiet {α : Type} {rooms : Channel → Prop} {p : Prog Redis Exn α}
    (hp : Quiet rooms p) (r : Redis) : Side rooms r (p.run r).2 :=
  (Prog.run_keeps Side.refl (fun _ _ _ => Side.trans) hp trivial).2

/-- A command of Redis failed, or met a key of the wrong type. -/
def Exn.FromRedis (e : Exn) : Prop := e = .redis ∨ e = .wrongType

instance (e : Exn) : Decidable e.FromRedis := inferInstanceAs (Decidable (_ ∨ _))

theorem raises_command {α : Type} {f : Redis → Except Exn α × Redis}
    (h : ∀ r e, (f r).1 = .error e → e.FromRedis) : (command f).Raises Exn.FromRedis := by
  refine Prog.raises_atomic (fun r e he => ?_)
  unfold attempt at he
  split at he
  · exact Except.error.inj he ▸ Or.inl rfl
  · exact h _ e he
  · exact h _ e he

theorem connectionOffline_raises (tenantId userId : String) (x : ConnId) :
    (Presence.connectionOffline tenantId userId x).Raises Exn.FromRedis := by
  refine (raises_command (fun r e he => ?_)).bind
    (fun _ => (raises_command (fun r e he => ?_)).bind (fun remaining => ?_))
  · unfold Presence.removeMember at he
    split at he
    · exact Except.error.inj he ▸ Or.inr rfl
    · exact absurd he (by simp)
    · exact absurd he (by simp)
  · unfold Presence.countMembers at he
    split at he
    · exact Except.error.inj he ▸ Or.inr rfl
    · exact absurd he (by simp)
    · exact absurd he (by simp)
  · split
    · exact (raises_command (fun r e he => absurd he (by simp))).bind fun _ => trivial
    · trivial

theorem run_withRedis_command {α : Type} {f : Redis → Except Exn α × Redis} {g : Gateway} {a : α}
    (hf : g.redis.faults = []) (ha : (f g.redis).1 = .ok a) :
    (withRedis (command f)).run g = (.ok a, setRedis (f g.redis).2 g) := by
  rw [run_withRedis, run_command_ok hf, ha]

/-! ## 2. The subscription manager -/

/-- The local half of a SUBSCRIBE. -/
def Node.attached (x : ConnId) (channel : Channel) (n : Node) : Node :=
  ((n.subscribe x channel).countUp channel).startListener channel

/-- The local half of an UNSUBSCRIBE. -/
def Node.detached (x : ConnId) (channel : Channel) (n : Node) : Node :=
  ((n.unsubscribe x channel).countDown channel).2

/-- The local half of releasing a list of channels. -/
def Node.released (channels : List Channel) (n : Node) : Node :=
  channels.foldl (fun n channel => (n.countDown channel).2) n

section Manager

variable (env : Env) {g : Gateway} (hf : g.redis.faults = [])

include hf

theorem onLocalSubscribe_run (channel : Channel) :
    ∃ r, Side (fun _ => True) g.redis r ∧ (onLocalSubscribe env channel).run g
      = (.ok (), ⟨r, (g.node.countUp channel).startListener channel⟩) := by
  have h1 : Side (fun _ => True) g.redis (roomAdd channel env.settings.nodeId g.redis).2 :=
    side_setRoom _ trivial _
  have h2 : Side (fun _ => True) (roomAdd channel env.settings.nodeId g.redis).2
      (roomExpire channel (env.settings.nodeTtlSeconds * 3)
        (roomAdd channel env.settings.nodeId g.redis).2).2 := side_setRoom _ trivial _
  refine ⟨_, h1.trans h2, ?_⟩
  have hrun : (onLocalSubscribe env channel).run g =
      ((withRedis (command (roomAdd channel env.settings.nodeId))).bind fun _ =>
        (withRedis (command (roomExpire channel (env.settings.nodeTtlSeconds * 3)))).bind fun _ =>
          locally (Node.startListener channel)).run ⟨g.redis, g.node.countUp channel⟩ := rfl
  rw [hrun, Prog.run_bind_ok (run_withRedis_command
    (g := ⟨g.redis, g.node.countUp channel⟩) hf rfl)]
  exact Prog.run_bind_ok (run_withRedis_command (g := ⟨_, g.node.countUp channel⟩) (h1.up hf) rfl)

theorem onLocalUnsubscribe_run (channel : Channel) :
    ∃ r, Side (fun _ => True) g.redis r ∧
      (onLocalUnsubscribe env channel).run g = (.ok (), ⟨r, (g.node.countDown channel).2⟩) := by
  have hrun : (onLocalUnsubscribe env channel).run g = (if (g.node.countDown channel).1
      then withRedis (command (roomRemove channel env.settings.nodeId))
      else .ret ()).run ⟨g.redis, (g.node.countDown channel).2⟩ := rfl
  rw [hrun]
  split
  · have h1 : Side (fun _ => True) g.redis (roomRemove channel env.settings.nodeId g.redis).2 :=
      side_setRoom _ trivial _
    exact ⟨_, h1, run_withRedis_command (g := ⟨g.redis, (g.node.countDown channel).2⟩) hf rfl⟩
  · exact ⟨g.redis, Side.refl _, rfl⟩

end Manager

theorem forEach_onLocalUnsubscribe_run (env : Env) : ∀ (channels : List Channel) {g : Gateway},
    g.redis.faults = [] →
      ∃ r, Side (fun _ => True) g.redis r ∧
        (Prog.forEach (onLocalUnsubscribe env) channels).run g
          = (.ok (), ⟨r, g.node.released channels⟩)
  | [], g, _ => ⟨g.redis, Side.refl _, rfl⟩
  | channel :: rest, g, hf => by
    obtain ⟨r, hs, hrun⟩ := onLocalUnsubscribe_run env hf channel
    obtain ⟨r', hs', hrun'⟩ := forEach_onLocalUnsubscribe_run env rest
      (g := ⟨r, (g.node.countDown channel).2⟩) (hs.up hf)
    refine ⟨r', hs.trans hs', ?_⟩
    rw [Prog.forEach, Prog.run_bind_ok hrun, hrun']
    rfl

/-! ## 3. Cleanup -/

/-- The subscriptions of a connection, none if it is not registered. -/
def Node.subscriptionsOf (n : Node) (x : ConnId) : List Channel :=
  match n.registry.byId.get? x with
  | some conn => conn.subscriptions.elems
  | none => []

/-- The connection is dead and its sender cancelled. -/
def Node.deadened (x : ConnId) (n : Node) : Node :=
  n.updateConn x (fun conn => { conn with state := .dead }.cancelSender)

/-- The node after a cleanup that came to its end. -/
def Node.cleaned (x : ConnId) (n : Node) : Node :=
  ((n.deadened x).released (n.subscriptionsOf x)).remove x

theorem whenUser_run {userId : Option String} {p : String → Prog Redis Exn Unit}
    {rooms : Channel → Prop} (hq : ∀ user, Quiet rooms (p user))
    (hr : ∀ user, (p user).Raises Exn.FromRedis) (g : Gateway) :
    ∃ r, Side rooms g.redis r ∧
      ((whenUser userId p).run g = (.ok (), ⟨r, g.node⟩) ∨
        ∃ e, e.FromRedis ∧ (whenUser userId p).run g = (.error e, ⟨r, g.node⟩)) := by
  cases userId with
  | none => exact ⟨g.redis, Side.refl _, Or.inl rfl⟩
  | some user =>
    refine ⟨_, run_quiet (hq user) g.redis, ?_⟩
    simp only [whenUser, run_withRedis]
    cases h : ((p user).run g.redis).1 with
    | ok a => exact Or.inl rfl
    | error e => exact Or.inr ⟨e, Prog.run_raises (hr user) h, rfl⟩

/-- A cleanup with Redis up runs to its end, or a Redis exception stops it. -/
theorem cleanupConnection_run (env : Env) (p : Peer) {g : Gateway} (hf : g.redis.faults = []) :
    ∃ r, Side (fun _ => True) g.redis r ∧
      ((cleanupConnection env p).run g = (.ok (), ⟨r, g.node.cleaned p.connectionId⟩) ∨
        ∃ e n, e.FromRedis ∧ (cleanupConnection env p).run g = (.error e, ⟨r, n⟩)) := by
  have hstart : (cleanupConnection env p).run g =
      ((Prog.forEach (onLocalUnsubscribe env) (g.node.subscriptionsOf p.connectionId)).bind
        fun _ => (whenUser p.userId (fun user =>
          (Presence.connectionOffline p.tenantId user p.connectionId).bind fun _ => .ret ())).bind
            fun _ => locally (Node.remove p.connectionId)).run
        ⟨g.redis, g.node.deadened p.connectionId⟩ := rfl
  obtain ⟨r, hs, hrun⟩ := forEach_onLocalUnsubscribe_run env
    (g.node.subscriptionsOf p.connectionId)
    (g := ⟨g.redis, g.node.deadened p.connectionId⟩) hf
  rw [hstart, Prog.run_bind_ok hrun]
  obtain ⟨r', hs', hrun' | ⟨e, he, hrun'⟩⟩ := whenUser_run
    (fun user => (connectionOffline_quiet (fun _ => True) p.tenantId user p.connectionId).bind
      fun _ => Prog.keeps_ret ())
    (fun user => (connectionOffline_raises p.tenantId user p.connectionId).bind fun _ => trivial)
    ⟨r, (g.node.deadened p.connectionId).released (g.node.subscriptionsOf p.connectionId)⟩
  · refine ⟨r', hs.trans hs', Or.inl ?_⟩
    rw [Prog.run_bind_ok hrun']
    rfl
  · exact ⟨r', hs.trans hs', Or.inr ⟨e, _, he, Prog.run_bind_error hrun'⟩⟩

/-! ## 4. Whole frames -/

/-- What one turn does to the subscriptions of its connection. -/
inductive Change
  | attach (channel : Channel)
  | detach (channel : Channel)
  | clean

/-- The effect of a change on the node. -/
def Node.change (x : ConnId) (n : Node) : Change → Node
  | .attach channel => n.attached x channel
  | .detach channel => n.detached x channel
  | .clean => n.cleaned x

/-- From `n` to `n'` by these changes, with anything outbound before, between and after them. -/
inductive NodeRun (x : ConnId) : List Change → Node → Node → Prop
  | rest {n n' : Node} (h : n.Outbound n') : NodeRun x [] n n'
  | step {n m n' : Node} {c : Change} {l : List Change} (h : n.Outbound m)
      (k : NodeRun x l (m.change x c) n') : NodeRun x (c :: l) n n'

namespace NodeRun

variable {x : ConnId}

theorem single (c : Change) (n : Node) : NodeRun x [c] n (n.change x c) :=
  .step (Node.Outbound.refl n) (.rest (Node.Outbound.refl _))

theorem outbound_left {l : List Change} {n m n' : Node} (h : n.Outbound m)
    (k : NodeRun x l m n') : NodeRun x l n n' := by
  cases k with
  | rest k => exact .rest (h.trans k)
  | step k rest => exact .step (h.trans k) rest

theorem trans {l l' : List Change} {n m n' : Node} (h : NodeRun x l n m)
    (k : NodeRun x l' m n') : NodeRun x (l ++ l') n n' := by
  induction h with
  | rest h => exact k.outbound_left h
  | step h _ ih => exact .step h (ih k)

theorem outbound_right {l : List Change} {n m n' : Node} (h : NodeRun x l n m)
    (k : m.Outbound n') : NodeRun x l n n' := by
  have := h.trans (.rest k)
  rwa [List.append_nil] at this

theorem split {l' : List Change} {n' : Node} : ∀ {l : List Change} {n : Node},
    NodeRun x (l ++ l') n n' → ∃ m, NodeRun x l n m ∧ NodeRun x l' m n'
  | [], n, h => ⟨n, .rest (Node.Outbound.refl n), h⟩
  | c :: l, n, h => by
    cases h with
    | step ho k =>
      obtain ⟨m, h1, h2⟩ := split k
      exact ⟨m, .step ho h1, h2⟩

theorem nil_iff {n n' : Node} : NodeRun x [] n n' ↔ n.Outbound n' := by
  constructor
  · intro h
    cases h with
    | rest h => exact h
  · exact .rest

theorem singleton_iff {c : Change} {n n' : Node} :
    NodeRun x [c] n n' ↔ ∃ m, n.Outbound m ∧ (m.change x c).Outbound n' := by
  constructor
  · intro h
    cases h with
    | step ho k => exact ⟨_, ho, nil_iff.mp k⟩
  · rintro ⟨m, ho, k⟩
    exact .step ho (.rest k)

end NodeRun

/-- Effects with nothing in scope are outbound. -/
theorem effect_outbound {env : Env} {x : ConnId} {tenantId : String} {resumes : Bool}
    {g g' : Gateway} (h : Effect env x tenantId ⟨resumes, false, fun _ => False, fun _ _ => True⟩ g g') :
    g.node.Outbound g'.node ∧ Side (fun _ => True) g.redis g'.redis := by
  cases h with
  | redis hs => exact ⟨Node.Outbound.refl _, { hs with room := fun _ h => absurd trivial h }⟩
  | write frame _ => exact ⟨Node.outbound_sendText x frame _, Side.refl _⟩
  | bookkeeping f hf => exact ⟨Node.outbound_updateConn _ _ (fun c _ => hf.ident c), Side.refl _⟩
  | replay channel messages _ _ _ => exact ⟨outbound_replayInto env x channel messages _, Side.refl _⟩
  | subscribe _ _ ht => exact absurd ht id
  | countUp _ _ ht => exact absurd ht id
  | startListener _ _ ht => exact absurd ht id
  | unsubscribe _ ht => exact absurd ht id
  | countDown _ ht => exact absurd ht id
  | add _ _ hl => exact absurd hl (by simp)
  | remove hl => exact absurd hl (by simp)
  | look => exact ⟨Node.Outbound.refl _, Side.refl _⟩

/-- The invariant that asks nothing. -/
theorem effect_trivial {env : Env} {x : ConnId} {tenantId : String} {sc : Scope} :
    Effect.Invariant env x tenantId sc (fun _ => True) := fun _ _ _ _ => trivial

theorem run_outbound {α : Type} (env : Env) (x : ConnId) (tenantId : String) (resumes : Bool)
    {q : Prog Gateway Exn α} (hq : q.Keeps (fun _ => True)
      (Effect env x tenantId ⟨resumes, false, fun _ => False, fun _ _ => True⟩)) (g : Gateway) :
    g.node.Outbound (q.run g).2.node ∧ Side (fun _ => True) g.redis (q.run g).2.redis := by
  have hq' : q.Keeps (fun _ => True) (fun a b => a.node.Outbound b.node ∧
      Side (fun _ => True) a.redis b.redis) := hq.mono (fun _ _ _ h => effect_outbound h)
  refine (Prog.run_keeps ?_ ?_ hq' trivial).2
  · exact fun s => ⟨Node.Outbound.refl _, Side.refl _⟩
  · exact fun _ _ _ h k => ⟨h.1.trans k.1, h.2.trans k.2⟩

/-- The own channels of a RESUME that have no gap. -/
def resumable (p : Peer) (r : Redis) (acks : List (Channel × Int)) : List Channel :=
  (acks.filter (fun a => channelBelongsToTenant a.1 p.tenantId &&
    !(replayOf (r.stream a.1) a.2).gap)).map Prod.fst

theorem resumable_side {p : Peer} {r r' : Redis} {rooms : Channel → Prop} (h : Side rooms r r')
    (acks : List (Channel × Int)) : resumable p r' acks = resumable p r acks := by
  unfold resumable
  rw [h.stream]

/-- A replay that the queue takes is followed by the subscription. -/
theorem reattach_run_ok (env : Env) (p : Peer) (channel : Channel) {messages : List StreamEntry}
    {g : Gateway} {n : Node} (hf : g.redis.faults = [])
    (h : g.node.replayInto env p.connectionId channel messages = (.ok (), n)) :
    ∃ r, Side (fun _ => True) g.redis r ∧ (reattach env p channel messages).run g
      = (.ok (), ⟨r, n.attached p.connectionId channel⟩) := by
  have hstart := run_tryLocally (Node.replayInto env p.connectionId channel messages) g
  rw [h] at hstart
  obtain ⟨r, hs, hrun⟩ := onLocalSubscribe_run env
    (g := ⟨g.redis, n.subscribe p.connectionId channel⟩) hf channel
  exact ⟨r, hs, (Prog.run_bind_ok hstart).trans hrun⟩

/-- A replay that the queue refuses ends the frame. -/
theorem reattach_run_error (env : Env) (p : Peer) (channel : Channel)
    {messages : List StreamEntry} {g : Gateway} {n : Node} {e : Exn}
    (h : g.node.replayInto env p.connectionId channel messages = (.error e, n)) :
    (reattach env p channel messages).run g = (.error e, setNode n g) := by
  have hstart := run_tryLocally (Node.replayInto env p.connectionId channel messages) g
  rw [h] at hstart
  exact Prog.run_bind_error hstart

/-- A channel is attached after its replay, or the queue refuses the replay. -/
theorem reattach_run (env : Env) (p : Peer) (channel : Channel) (messages : List StreamEntry)
    {g : Gateway} (hf : g.redis.faults = []) :
    ∃ r, Side (fun _ => True) g.redis r ∧
      ((reattach env p channel messages).run g = (.ok (), ⟨r, (g.node.replayInto env p.connectionId
          channel messages).2.attached p.connectionId channel⟩) ∨
        ∃ e, (reattach env p channel messages).run g
          = (.error e, ⟨r, (g.node.replayInto env p.connectionId channel messages).2⟩)) := by
  cases hres : g.node.replayInto env p.connectionId channel messages with
  | mk res n =>
    cases res with
    | error e => exact ⟨g.redis, Side.refl _, Or.inr ⟨e, reattach_run_error env p channel hres⟩⟩
    | ok u =>
      obtain ⟨r, hs, hrun⟩ := reattach_run_ok env p channel hf hres
      exact ⟨r, hs, Or.inl hrun⟩

/-- The loop of the RESUME branch attaches the own channels without a gap, one after the other,
until it is through or something raises. -/
theorem resumeChannels_run (env : Env) (p : Peer) : ∀ (acks : List (Channel × Int))
    (replayed : List (Channel × Nat)) (gaps : List Channel) (g : Gateway), g.redis.faults = [] →
      ∃ l, l <+: resumable p g.redis acks ∧
        NodeRun p.connectionId (l.map .attach) g.node
          ((resumeChannels env p acks replayed gaps).run g).2.node ∧
        Side (fun _ => True) g.redis ((resumeChannels env p acks replayed gaps).run g).2.redis
  | [], replayed, gaps, g, _ =>
    ⟨[], List.prefix_refl _, .rest (Node.Outbound.refl _), Side.refl _⟩
  | (channel, lastAck) :: rest, replayed, gaps, g, hf => by
    by_cases hown : channelBelongsToTenant channel p.tenantId = true
    · have hx : Side (fun _ => True) g.redis (xrange channel g.redis).2 := side_xrange channel _
      have hreplay : (withRedis (replayChannel channel lastAck)).run g
          = (.ok (replayOf (g.redis.stream channel) lastAck),
              setRedis (xrange channel g.redis).2 g) := by
        rw [run_withRedis, replayChannel_run hf]
      unfold resumeChannels
      rw [if_pos hown]
      simp only [Prog.bind_eq]
      rw [Prog.run_bind_ok hreplay]
      cases hgap : (replayOf (g.redis.stream channel) lastAck).gap with
      | true =>
        -- a gap: the error is sent, or the socket refuses it
        have hskip : resumable p g.redis ((channel, lastAck) :: rest)
            = resumable p g.redis rest := by simp [resumable, hgap]
        rw [hskip, if_pos rfl]
        obtain ⟨ho, hs⟩ := run_outbound env p.connectionId p.tenantId false
          (sendError_keeps effect_trivial .resumeGap channel)
          (setRedis (xrange channel g.redis).2 g)
        rw [Prog.run_bind]
        split
        · rename_i u g' hg'
          rw [hg'] at ho hs
          obtain ⟨l, hl, hn, hs'⟩ := resumeChannels_run env p rest replayed (gaps ++ [channel]) g'
            ((hx.trans hs).up hf)
          rw [resumable_side (hx.trans hs)] at hl
          exact ⟨l, hl, hn.outbound_left ho, (hx.trans hs).trans hs'⟩
        · rename_i e g' hg'
          rw [hg'] at ho hs
          exact ⟨[], List.nil_prefix, .rest ho, hx.trans hs⟩
      | false =>
        have htake : resumable p g.redis ((channel, lastAck) :: rest)
            = channel :: resumable p g.redis rest := by simp [resumable, hgap, hown]
        rw [htake, if_neg (by simp)]
        have ho := outbound_replayInto env p.connectionId channel
          (replayOf (g.redis.stream channel) lastAck).messages g.node
        obtain ⟨r, hs, hrun | ⟨e, hrun⟩⟩ := reattach_run env p channel
          (replayOf (g.redis.stream channel) lastAck).messages
          (g := setRedis (xrange channel g.redis).2 g) (hx.up hf)
        · rw [Prog.run_bind_ok hrun]
          obtain ⟨l, hl, hn, hs'⟩ := resumeChannels_run env p rest
            (replayed ++ [(channel, (replayOf (g.redis.stream channel) lastAck).messages.length)])
            gaps ⟨r, (g.node.replayInto env p.connectionId channel
              (replayOf (g.redis.stream channel) lastAck).messages).2.attached p.connectionId
                channel⟩ ((hx.trans hs).up hf)
          rw [resumable_side (hx.trans hs)] at hl
          exact ⟨channel :: l, (List.prefix_cons_inj channel).mpr hl, .step ho hn,
            (hx.trans hs).trans hs'⟩
        · rw [Prog.run_bind_error hrun]
          exact ⟨[], List.nil_prefix, .rest ho, hx.trans hs⟩
    · have hskip : resumable p g.redis ((channel, lastAck) :: rest)
          = resumable p g.redis rest := by simp [resumable, hown]
      rw [hskip]
      unfold resumeChannels
      rw [if_neg hown]
      exact resumeChannels_run env p rest replayed gaps g hf

/-- The channels an input attaches, if nothing raises. -/
def attachesOf (env : Env) (p : Peer) (r : Redis) : Received → List Channel
  | .json (.obj fields) =>
    match branchOf fields with
    | .subscribe =>
      ((parseSubscribe fields).filter (fun channel =>
        channelBelongsToTenant channel p.tenantId)).toList
    | .resume =>
      match parseResume env fields with
      | some (_, acks) => resumable p r acks.entries
      | none => []
    | _ => []
  | _ => []

theorem reply_run (env : Env) (p : Peer) (frame : ServerFrame) (h : frame.message? = none)
    (g : Gateway) :
    g.node.Outbound (((sendText p.connectionId frame).bind (fun _ => .ret true)).run g).2.node ∧
      Side (fun _ => True) g.redis
        (((sendText p.connectionId frame).bind (fun _ => .ret true)).run g).2.redis :=
  run_outbound env p.connectionId p.tenantId false
    ((sendText_keeps effect_trivial h).bind fun _ => Prog.keeps_ret true) g

/-- An UNSUBSCRIBE attaches nothing. -/
theorem attachesOf_unsubscribes {env : Env} {p : Peer} {r : Redis} {input : Received}
    {channel : Channel} (h : input.unsubscribes = some channel) : attachesOf env p r input = [] := by
  cases input with
  | json raw =>
    cases raw with
    | obj fields =>
      simp only [Received.unsubscribes, unsubscribes] at h
      split at h
      · rename_i hb
        simp only [attachesOf, hb]
      · exact absurd h (by simp)
    | _ => rfl
  | _ => rfl

/-- No channel is attached twice by one input. -/
theorem nodup_attachesOf (env : Env) (p : Peer) (r : Redis) (input : Received) :
    (attachesOf env p r input).Nodup := by
  unfold attachesOf
  split
  · split
    · exact Option.toList_nodup _
    · split
      · rename_i acks _
        exact acks.nodup.sublist (List.filter_sublist.map _)
      · exact List.nodup_nil
    · exact List.nodup_nil
  · exact List.nodup_nil

theorem attachChannel_run (env : Env) (p : Peer) (channel : Channel) {g : Gateway}
    (hf : g.redis.faults = []) :
    NodeRun p.connectionId [.attach channel] g.node ((attachChannel env p channel).run g).2.node ∧
      Side (fun _ => True) g.redis ((attachChannel env p channel).run g).2.redis := by
  obtain ⟨r, hs, hrun⟩ := onLocalSubscribe_run env
    (g := ⟨g.redis, g.node.subscribe p.connectionId channel⟩) hf channel
  have hstart : (attachChannel env p channel).run g
      = ((sendText p.connectionId (.subscribed channel)).bind fun _ => .ret true).run
          ⟨r, g.node.attached p.connectionId channel⟩ :=
    (Prog.run_bind_ok (run_locally _ g)).trans (Prog.run_bind_ok hrun)
  obtain ⟨ho, hs'⟩ := reply_run env p (.subscribed channel) rfl
    ⟨r, g.node.attached p.connectionId channel⟩
  rw [hstart]
  exact ⟨(NodeRun.single (.attach channel) g.node).outbound_right ho, hs.trans hs'⟩

theorem detachChannel_run (env : Env) (p : Peer) (channel : Channel) {g : Gateway}
    (hf : g.redis.faults = []) :
    NodeRun p.connectionId [.detach channel] g.node ((detachChannel env p channel).run g).2.node ∧
      Side (fun _ => True) g.redis ((detachChannel env p channel).run g).2.redis := by
  obtain ⟨r, hs, hrun⟩ := onLocalUnsubscribe_run env
    (g := ⟨g.redis, g.node.unsubscribe p.connectionId channel⟩) hf channel
  have hstart : (detachChannel env p channel).run g
      = ((sendText p.connectionId (.unsubscribed channel)).bind fun _ => .ret true).run
          ⟨r, g.node.detached p.connectionId channel⟩ :=
    (Prog.run_bind_ok (run_locally _ g)).trans (Prog.run_bind_ok hrun)
  obtain ⟨ho, hs'⟩ := reply_run env p (.unsubscribed channel) rfl
    ⟨r, g.node.detached p.connectionId channel⟩
  rw [hstart]
  exact ⟨(NodeRun.single (.detach channel) g.node).outbound_right ho, hs.trans hs'⟩

theorem resume_run (env : Env) (p : Peer) (acks : List (Channel × Int)) {g : Gateway}
    (hf : g.redis.faults = []) :
    ∃ l, l <+: resumable p g.redis acks ∧
      NodeRun p.connectionId (l.map .attach) g.node ((resume env p acks).run g).2.node ∧
      Side (fun _ => True) g.redis ((resume env p acks).run g).2.redis := by
  obtain ⟨l, hl, hn, hs⟩ := resumeChannels_run env p acks [] [] g hf
  unfold resume
  rw [Prog.bind_eq, Prog.run_bind]
  split
  · rename_i res g' hg'
    rw [hg'] at hn hs
    obtain ⟨ho, hs'⟩ := reply_run env p (.resumed p.sessionId res.1 res.2) rfl g'
    exact ⟨l, hl, hn.outbound_right ho, hs.trans hs'⟩
  · rename_i e g' hg'
    rw [hg'] at hn hs
    exact ⟨l, hl, hn, hs⟩

/-- **What the body of the loop does to the tables**, run alone with Redis up. -/
theorem onReceived_run (env : Env) (p : Peer) (input : Received) {g : Gateway}
    (hf : g.redis.faults = []) :
    ∃ l, l <+: attachesOf env p g.redis input ∧
      NodeRun p.connectionId (l.map .attach ++ input.unsubscribes.toList.map .detach) g.node
        ((onReceived env p input).run g).2.node ∧
      Side (fun _ => True) g.redis ((onReceived env p input).run g).2.redis := by
  have hquiet : ∀ {q : Prog Gateway Exn Bool}, q.Keeps (fun _ => True)
      (Effect env p.connectionId p.tenantId ⟨false, false, fun _ => False, fun _ _ => True⟩) →
      ∀ l, ∃ l', l' <+: l ∧ NodeRun p.connectionId (l'.map .attach ++ []) g.node (q.run g).2.node ∧
        Side (fun _ => True) g.redis (q.run g).2.redis := fun hq l => by
    obtain ⟨ho, hs⟩ := run_outbound env p.connectionId p.tenantId false hq g
    exact ⟨[], List.nil_prefix, .rest ho, hs⟩
  cases input with
  | garbage => exact hquiet (q := .raise .decode) trivial []
  | closed => exact hquiet (q := .raise .disconnect) trivial []
  | json raw =>
    cases raw with
    | obj fields =>
      simp only [onReceived, attachesOf, Received.unsubscribes, unsubscribes]
      cases hb : branchOf fields with
      | pong =>
        simp only [onFrame, hb]
        exact hquiet (onPong_keeps effect_trivial) []
      | presence =>
        simp only [onFrame, hb]
        exact hquiet ((whenUser_keeps effect_trivial
          (fun user => setState_quiet _ env p.tenantId user _)).bind fun _ =>
            Prog.keeps_ret true) []
      | subscribe =>
        simp only [onFrame, hb, onSubscribe]
        cases hparse : parseSubscribe fields with
        | none =>
          exact hquiet ((sendError_keeps effect_trivial _ _).bind fun _ => Prog.keeps_ret true) _
        | some channel =>
          by_cases hown : channelBelongsToTenant channel p.tenantId = true
          · obtain ⟨hn, hs⟩ := attachChannel_run env p channel hf
            have hone : ((some channel).filter (fun c =>
                channelBelongsToTenant c p.tenantId)).toList = [channel] := by
              simp [Option.filter_some, hown]
            simp only [if_pos hown]
            exact ⟨[channel], hone ▸ List.prefix_refl _, hn, hs⟩
          · simp only [if_neg hown]
            exact hquiet ((sendError_keeps effect_trivial _ _).bind fun _ => Prog.keeps_ret true) _
      | unsubscribe =>
        simp only [onFrame, hb, onUnsubscribe]
        cases hparse : parseUnsubscribe fields with
        | none => exact hquiet (q := .raise .validation) trivial []
        | some channel =>
          obtain ⟨hn, hs⟩ := detachChannel_run env p channel hf
          exact ⟨[], List.nil_prefix, hn, hs⟩
      | ack =>
        simp only [onFrame, hb]
        exact hquiet (onAckFrame_keeps effect_trivial fields) []
      | resume =>
        simp only [onFrame, hb, onResume]
        cases hparse : parseResume env fields with
        | none => exact hquiet (q := .raise .validation) trivial []
        | some parsed =>
          obtain ⟨l, hl, hn, hs⟩ := resume_run env p parsed.2.entries hf
          exact ⟨l, hl, by simpa using hn, hs⟩
      | disconnect =>
        simp only [onFrame, hb]
        exact hquiet (q := .ret false) trivial []
      | other =>
        simp only [onFrame, hb]
        exact hquiet ((sendError_keeps effect_trivial _ _).bind fun _ => Prog.keeps_ret true) []
    | _ => exact hquiet (q := .raise .attribute) trivial []

/-- The end of a turn: nothing, or the cleanup, unless a Redis exception comes out of it. -/
theorem afterBody_run (env : Env) (p : Peer) (outcome : Except Exn Bool) {g : Gateway}
    (hf : g.redis.faults = [])
    (hno : ∀ e, ((afterBody env p outcome).run g).1 = .error e → ¬ e.FromRedis) :
    ∃ r, Side (fun _ => True) g.redis r ∧
      (((afterBody env p outcome).run g).2 = ⟨r, g.node⟩ ∨
        ((afterBody env p outcome).run g).2 = ⟨r, g.node.cleaned p.connectionId⟩) := by
  obtain ⟨r, hs, hrun | ⟨e, n, he, hrun⟩⟩ := cleanupConnection_run env p hf
  · -- whatever follows the cleanup returns or raises at once
    have hend : ∀ {α : Type} (k : Unit → Prog Gateway Exn α),
        (∀ s, ((k ()).run s).2 = s) → (((cleanupConnection env p).bind k).run g).2
          = ⟨r, g.node.cleaned p.connectionId⟩ := fun k hk => by
      rw [Prog.run_bind_ok hrun, hk]
    unfold afterBody
    split
    · simp only [Prog.bind_eq, Prog.run_bind, Prog.run_act]
      split
      · exact ⟨g.redis, Side.refl _, Or.inl rfl⟩
      · exact ⟨r, hs, Or.inr (hend _ (fun _ => rfl))⟩
    · exact ⟨r, hs, Or.inr (hend _ (fun _ => rfl))⟩
    · refine ⟨r, hs, Or.inr (hend _ (fun _ => ?_))⟩
      split <;> rfl
  · have hraise : ∀ {α : Type} (k : Unit → Prog Gateway Exn α),
        (((cleanupConnection env p).bind k).run g).1 = .error e := fun k => by
      rw [Prog.run_bind_error hrun]
    unfold afterBody at hno ⊢
    split at hno
    · simp only [Prog.bind_eq, Prog.run_bind, Prog.run_act] at hno ⊢
      split at hno
      · rename_i hact
        rw [if_pos hact]
        exact ⟨g.redis, Side.refl _, Or.inl rfl⟩
      · exact absurd he (hno e (hraise _))
    · exact absurd he (hno e (hraise _))
    · exact absurd he (hno e (hraise _))

/-- **What a whole turn does to the tables**: it attaches a prefix of the channels the input asks
for, detaches the one it unsubscribes, and cleans up or not. -/
theorem turn_run (env : Env) (p : Peer) (input : Received) {g : Gateway}
    (hf : g.redis.faults = [])
    (hno : ∀ e, ((turn env p input).run g).1 = .error e → ¬ e.FromRedis) :
    ∃ l clean, l <+: attachesOf env p g.redis input ∧
      (clean = [] ∨ clean = [Change.clean]) ∧
      NodeRun p.connectionId (l.map .attach ++ input.unsubscribes.toList.map .detach ++ clean)
        g.node ((turn env p input).run g).2.node ∧
      Side (fun _ => True) g.redis ((turn env p input).run g).2.redis := by
  obtain ⟨l, hl, hn, hs⟩ := onReceived_run env p input hf
  have hturn : (turn env p input).run g = (afterBody env p ((onReceived env p input).run g).1).run
      ((onReceived env p input).run g).2 := by
    unfold turn
    rw [Prog.run_bind, Prog.run_try]
  rw [hturn] at hno ⊢
  obtain ⟨r, hs', hafter | hafter⟩ := afterBody_run env p _ (hs.up hf) hno
  · refine ⟨l, [], hl, Or.inl rfl, ?_, ?_⟩
    · rw [hafter, List.append_nil]; exact hn
    · rw [hafter]; exact hs.trans hs'
  · refine ⟨l, [.clean], hl, Or.inr rfl, ?_, ?_⟩
    · rw [hafter]
      exact hn.trans (NodeRun.single .clean _)
    · rw [hafter]; exact hs.trans hs'

end Relay
