/-
# Replayed messages and RESUMED on the wire

The protocol lets a client take RESUMED as the end of the replay.  But the two go out on different
ways: the replay puts its messages in the connection's queue, from which the sender task takes them
one by one as the window allows, and the handler writes RESUMED on the socket itself.  ACK frames
that would open the window wait in the socket until the handler has done with the RESUME.

* `replay_first_iff`: the messages come first under every schedule of the sender exactly if there
  is nothing to replay;
* `replay_after_resumed`: with a window of one message, the second one of a replay comes after
  RESUMED even if the sender runs whenever it can.
-/
import Mathlib
import Relay.ResumeReport

namespace Relay

open Gateway Redis

/-! ## 1. The handler and the sender -/

/-- The sender of the connection is resumed. -/
def senderMove (env : Env) (x : ConnId) (g : Gateway) : Gateway :=
  setNode (g.node.updateConn x (fun conn => (conn.senderStep env).getD conn)) g

/-- The sender is resumed some number of times. -/
def SenderRuns (env : Env) (x : ConnId) (g g' : Gateway) : Prop :=
  ∃ k : Nat, g' = (senderMove env x)^[k] g

/-- In the frames written since `g`, every message enqueued since comes before a RESUMED. -/
def ReplayFirst (x : ConnId) (g g' : Gateway) : Prop :=
  ∃ conn conn', g.node.registry.byId.get? x = some conn ∧
    g'.node.registry.byId.get? x = some conn' ∧
    ∃ sessionId replayed gaps before after,
      conn'.wire = conn.wire ++ (before ++ .resumed sessionId replayed gaps :: after) ∧
      ∀ c, ∀ m ∈ (conn'.acceptedOn c).drop (conn.acceptedOn c).length, .message m ∈ before

/-- The channels of the RESUME have nothing beyond their positions, or they have a gap. -/
def NothingToReplay (p : Peer) (acks : List (Channel × Int)) (r : Redis) : Prop :=
  ∀ c last, (c, last) ∈ acks → channelBelongsToTenant c p.tenantId = true →
    (replayOf (r.stream c) last).gap = true ∨ (replayOf (r.stream c) last).messages = []

section Sender

variable {env : Env} {x : ConnId} {g g' : Gateway}

theorem SenderRuns.refl (g : Gateway) : SenderRuns env x g g := ⟨0, rfl⟩

theorem share_senderStep (env : Env) (c : Channel) (conn : Connection) :
    ((conn.senderStep env).getD conn).share c = conn.share c := by
  have hsubs : ((conn.senderStep env).getD conn).subscriptions = conn.subscriptions :=
    congrArg Prod.snd (Connection.ident_senderStep env conn)
  simp only [Connection.share, Connection.acceptedOn, Connection.accepted_senderStep, hsubs]

/-- The sender only moves what has been accepted. -/
theorem meanwhile_senderMove (g : Gateway) : Meanwhile x g (senderMove env x g) := by
  refine ⟨Node.grows_updateConn (Connection.grows_senderStep env), fun c => ?_⟩
  exact share_node (map_frame (Registry.get_updateConn _ _ _ _) (share_senderStep env c)) Iff.rfl

theorem SenderRuns.meanwhile (h : SenderRuns env x g g') : Meanwhile x g g' := by
  obtain ⟨k, rfl⟩ := h
  induction k with
  | zero => exact Meanwhile.refl g
  | succ k ih =>
    rw [Function.iterate_succ_apply']
    exact ih.trans (meanwhile_senderMove _)

end Sender

/-! ## 2. What the handler writes itself -/

/-- The connection stays registered, and no MESSAGE is added to its wire. -/
def NoMessageWritten (x : ConnId) (g g' : Gateway) : Prop :=
  ∀ conn, g.node.registry.byId.get? x = some conn →
    ∃ conn' l, g'.node.registry.byId.get? x = some conn' ∧ conn'.wire = conn.wire ++ l ∧
      ∀ frame ∈ l, frame.message? = none

section Written

variable {env : Env} {p : Peer} {x : ConnId} {g : Gateway} {n : Node}

theorem NoMessageWritten.refl (g : Gateway) : NoMessageWritten x g g :=
  fun conn hconn => ⟨conn, [], hconn, by simp, by simp⟩

theorem NoMessageWritten.trans {a b c : Gateway} (h : NoMessageWritten x a b)
    (k : NoMessageWritten x b c) : NoMessageWritten x a c := by
  intro conn hconn
  obtain ⟨conn', l, hconn', hwire, hl⟩ := h conn hconn
  obtain ⟨conn'', l', hconn'', hwire', hl'⟩ := k conn' hconn'
  refine ⟨conn'', l ++ l', hconn'', by rw [hwire', hwire, List.append_assoc], fun f hf => ?_⟩
  exact (List.mem_append.mp hf).elim (hl f) (hl' f)

theorem noMessageWritten_of_wire (h : (n.registry.byId.get? x).map Connection.wire =
    (g.node.registry.byId.get? x).map Connection.wire) : NoMessageWritten x g (setNode n g) := by
  intro conn hconn
  rw [hconn] at h
  obtain ⟨conn', hconn', hwire⟩ := Option.map_eq_some_iff.mp h
  exact ⟨conn', [], hconn', by simpa using hwire, by simp⟩

/-- What a segment of the handler does, apart from opening and closing the connection. -/
theorem Effect.noMessageWritten {tenantId : String} {sc : Scope} {g' : Gateway}
    (hsc : sc.lifecycle = false) (e : Effect env x tenantId sc g g') : NoMessageWritten x g g' := by
  have hlife : sc.lifecycle ≠ true := by simp [hsc]
  cases e with
  | redis h => exact fun conn hconn => ⟨conn, [], hconn, by simp, by simp⟩
  | write frame h =>
    intro conn hconn
    cases hr : (g.node.sendText x frame).1 with
    | ok _ => exact ⟨_, [frame], Node.wire_sendText hconn hr, rfl, by simpa using h⟩
    | error err =>
      -- the write has failed, and the connection is as before
      refine ⟨conn, [], ?_, by simp, by simp⟩
      unfold setNode Node.sendText
      unfold Node.sendText at hr
      split at hr
      · exact hconn
      · exact absurd hr (by simp)
      · exact absurd hr (by simp)
  | bookkeeping f h =>
    exact noMessageWritten_of_wire (map_frame (Registry.get_updateConn _ _ _ _) h.wire)
  | replay channel messages h own source =>
    intro conn hconn
    obtain ⟨-, conn', hconn', -, -, -, hwire⟩ := replayInto_accepts env x channel messages hconn
    exact ⟨conn', [], hconn', by simpa using hwire, by simp⟩
  | subscribe channel own h =>
    exact noMessageWritten_of_wire (map_frame (Registry.get_subscribe _ _ _ _) (fun _ => rfl))
  | countUp channel own h => exact noMessageWritten_of_wire rfl
  | startListener channel own h =>
    exact noMessageWritten_of_wire (by rw [Node.registry_startListener])
  | unsubscribe channel h =>
    exact noMessageWritten_of_wire (map_frame (Registry.get_unsubscribe _ _ _ _) (fun _ => rfl))
  | countDown channel h => exact noMessageWritten_of_wire (by rw [Node.registry_countDown])
  | add sessionId userId h => exact absurd h hlife
  | remove h => exact absurd h hlife
  | look => exact NoMessageWritten.refl g

/-- The RESUME branch alone writes errors and RESUMED. -/
theorem resume_noMessageWritten (env : Env) (p : Peer) (acks : List (Channel × Int)) (g : Gateway) :
    NoMessageWritten p.connectionId g ((resume env p acks).run g).2 := by
  let sc : Scope := ⟨true, false, fun _ => True, fun _ _ => True⟩
  have hI : Effect.Invariant env p.connectionId p.tenantId sc (fun _ => True) :=
    fun _ _ _ _ => trivial
  have hkeeps : (resume env p acks).Keeps (fun _ => True)
      (Effect env p.connectionId p.tenantId sc) :=
    (resumeChannels_keeps hI (fun _ _ => trivial) (fun _ _ _ _ _ => trivial) rfl acks [] []).bind
      fun _ => (sendText_keeps hI rfl).bind fun _ => Prog.keeps_ret true
  exact (Prog.run_keeps NoMessageWritten.refl (fun _ _ _ => NoMessageWritten.trans)
    (Prog.Keeps.mono (fun _ _ _ e => e.noMessageWritten rfl) hkeeps) trivial).2

end Written

/-! ## 3. When the messages come first -/

section First

variable {env : Env} {p : Peer} {acks : List (Channel × Int)} {g g' : Gateway}
  {report : List (Channel × Nat) × List Channel} {conn conn' : Connection}

theorem accepted_of_share {x : ConnId} {c : Channel} {v : ChannelShare}
    (h : share x c g = some v) (hconn : g.node.registry.byId.get? x = some conn) :
    conn.acceptedOn c = v.accepted := by
  obtain ⟨conn₁, hconn₁, rfl⟩ := share_eq_some.mp h
  rw [Option.some.inj (hconn.symm.trans hconn₁)]

/-- With nothing to replay, nothing is enqueued. -/
theorem Reported.nothing (h : Reported p.connectionId (ownChannels p acks) g g' report)
    (hnone : NothingToReplay p acks g.redis)
    (hconn : g.node.registry.byId.get? p.connectionId = some conn)
    (hconn' : g'.node.registry.byId.get? p.connectionId = some conn') (c : Channel) :
    conn'.acceptedOn c = conn.acceptedOn c := by
  obtain ⟨v, hv⟩ := share_isSome (c := c) hconn
  rw [accepted_of_share hv hconn]
  by_cases hkey : c ∈ (ownChannels p acks).map Prod.fst
  · obtain ⟨last, hlast⟩ := mem_keys.mp hkey
    obtain ⟨hmem, hown⟩ := mem_ownChannels.mp hlast
    have ho := h.named c last hlast v hv
    unfold Outcome at ho
    split at ho
    · exact accepted_of_share ho.1 hconn'
    · rename_i hgap
      rw [share_stream hv] at ho hgap
      rw [(hnone c last hmem hown).resolve_left hgap] at ho
      exact (accepted_of_share ho.1 hconn').trans (List.append_nil _)
  · exact accepted_of_share (h.others c hkey v hv).1 hconn'

/-- What is replayed is enqueued. -/
theorem Reported.enqueued (h : Reported p.connectionId (ownChannels p acks) g g' report)
    (hconn : g.node.registry.byId.get? p.connectionId = some conn)
    (hconn' : g'.node.registry.byId.get? p.connectionId = some conn') {c : Channel} {last : Int}
    (hlast : (c, last) ∈ ownChannels p acks)
    (hgap : ¬ (replayOf (g.redis.stream c) last).gap = true) :
    (conn'.acceptedOn c).drop (conn.acceptedOn c).length =
      (replayOf (g.redis.stream c) last).messages.map (replayFrame c) := by
  obtain ⟨v, hv⟩ := share_isSome (c := c) hconn
  have ho := h.named c last hlast v hv
  rw [Outcome, share_stream hv, if_neg hgap] at ho
  rw [accepted_of_share hv hconn, accepted_of_share ho.1 hconn']
  exact List.drop_left

end First

/-- **Replay before RESUMED.**  If the RESUME has nothing to replay, then under every schedule of the
sender nothing is missing before RESUMED.  For a RESUME that completes when the sender gets no turn,
this is also necessary: with anything to replay, some schedule puts RESUMED first. -/
theorem replay_first_iff (env : Env) (p : Peer) (fields : List (String × Json)) (sessionId : String)
    (acks : Dict Channel Int) (hparse : parseResume env fields = some (sessionId, acks))
    (g : Gateway) (conn : Connection)
    (hconn : g.node.registry.byId.get? p.connectionId = some conn) :
    (NothingToReplay p acks.entries g.redis →
      (onResume env p fields).Wp (SenderRuns env p.connectionId)
        (fun r g' => r = .ok true → ReplayFirst p.connectionId g g') g) ∧
    (((onResume env p fields).run g).1 = .ok true →
      ((onResume env p fields).Wp (SenderRuns env p.connectionId)
        (fun r g' => r = .ok true → ReplayFirst p.connectionId g g') g ↔
          NothingToReplay p acks.entries g.redis)) := by
  have hrep := wp_resume_reported env (nodup_ownChannels p acks)
    (fun a ha => (mem_ownChannels.mp ha).2) hconn
  rw [onResume_own hparse]
  have hsuff : NothingToReplay p acks.entries g.redis →
      (resume env p (ownChannels p acks.entries)).Wp (SenderRuns env p.connectionId)
        (fun r g' => r = .ok true → ReplayFirst p.connectionId g g') g := by
    intro hnone
    refine (hrep.anti (fun _ _ h => h.meanwhile)).mono fun r g' hr hok => ?_
    obtain ⟨report, conn', hconn', hwire, hrep⟩ := hr true hok
    obtain ⟨conn₁, hconn₁, hgrows⟩ := hrep.grows conn hconn
    obtain rfl := Option.some.inj (hconn'.symm.trans hconn₁)
    obtain ⟨l, hl⟩ := hgrows.wire
    rw [← hl, List.drop_left] at hwire
    obtain ⟨before, after, rfl⟩ := List.append_of_mem hwire
    refine ⟨conn, conn', hconn, hconn', _, _, _, before, after, hl.symm, fun c m hm => ?_⟩
    rw [hrep.nothing hnone hconn hconn' c, List.drop_length] at hm
    exact absurd hm (by simp)
  refine ⟨hsuff, fun hok => ⟨fun hwp c last hmem hown => ?_, hsuff⟩⟩
  -- the schedule without the sender
  obtain ⟨conn₁, conn', hconn₁, hconn', _, _, _, before, after, hwire, hall⟩ :=
    hwp.run SenderRuns.refl hok
  obtain rfl := Option.some.inj (hconn.symm.trans hconn₁)
  obtain ⟨report, _, _, _, hreported⟩ := hrep.run Meanwhile.refl true hok
  obtain ⟨conn₂, l, hconn₂, hl, hnomsg⟩ :=
    resume_noMessageWritten env p (ownChannels p acks.entries) g conn hconn
  obtain rfl := Option.some.inj (hconn'.symm.trans hconn₂)
  have hbefore : ∀ frame ∈ before, frame.message? = none := fun frame hframe => by
    have heq := List.append_cancel_left (hwire.symm.trans hl)
    exact hnomsg frame (heq ▸ List.mem_append_left _ hframe)
  refine or_iff_not_imp_left.mpr fun hgap => ?_
  by_contra hne
  obtain ⟨e, he⟩ := List.exists_mem_of_ne_nil _ hne
  have hsent := hreported.enqueued hconn hconn' (mem_ownChannels.mpr ⟨hmem, hown⟩) hgap
  have hm := hall c (replayFrame c e) (hsent ▸ List.mem_map_of_mem he)
  exact absurd (hbefore _ hm) (by simp [ServerFrame.message?])

/-! ## 4. A replay longer than the window -/

/-- One message may be unacknowledged. -/
def narrowEnv : Env := .plain { maxInflightMessages := 1 }

/-- Two messages were published, and a client that has seen neither has connected. -/
def waitingGateway : Gateway :=
  ⟨publishSerially narrowEnv {} twoInOrder,
    ({} : Node).add { newConnection "x" "s" "a" none with sender := .getting }⟩

/-- The RESUME, with the sender running for as long as it can before every segment. -/
def eagerResume : Gateway :=
  ((onResume narrowEnv resumingPeer (resumeFrom 0)).runWith (senderMove narrowEnv "x")^[8]
    waitingGateway).2

/-- Later the first message is acknowledged, and the sender runs again. -/
def eagerAcked : Gateway :=
  (senderMove narrowEnv "x")^[8] (setNode (eagerResume.node.updateConn "x"
    (fun conn => (conn.onAck narrowEnv "t-a:c" 1).2)) eagerResume)

/-- The frames on the wire: the number of a MESSAGE, or none. -/
def wireNumbers (x : ConnId) (g : Gateway) : Option (List (Option Int)) :=
  (g.node.registry.byId.get? x).map (fun conn =>
    conn.wire.map (fun frame => frame.message?.map MessageFrame.sequence))

/-- The second message of the replay comes after RESUMED, however eager the sender is. -/
theorem replay_after_resumed :
    (eagerResume.node.registry.byId.get? "x").map (fun conn =>
        conn.wire.map ServerFrame.resumed?) = some [none, some ([("t-a:c", 2)], [])] ∧
      wireNumbers "x" eagerResume = some [some 1, none] ∧
      wireNumbers "x" eagerAcked = some [some 1, none, some 2] := by
  refine ⟨?_, ?_, ?_⟩ <;> decide +kernel

/-- From position 2 there is nothing to replay. -/
theorem nothing_replayed_from_two :
    (onResume narrowEnv resumingPeer (resumeFrom 2)).Wp (SenderRuns narrowEnv "x")
      (fun r g' => r = .ok true → ReplayFirst "x" waitingGateway g') waitingGateway := by
  refine (replay_first_iff narrowEnv resumingPeer (resumeFrom 2) "s" (Dict.ofList [("t-a:c", 2)]) rfl
    waitingGateway _ rfl).1 ?_
  intro c last hmem _
  obtain ⟨rfl, rfl⟩ := Prod.mk.inj (List.mem_singleton.mp hmem)
  refine Or.inr (List.length_eq_zero_iff.mp ?_)
  decide +kernel

end Relay
