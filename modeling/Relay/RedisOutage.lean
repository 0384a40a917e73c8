/-
# Connections during a Redis outage

`docs/failure-model.md` lists established WebSockets among what survives a Redis outage.  The frame
loop does not agree: PONG, ACK, PRESENCE, SUBSCRIBE and UNSUBSCRIBE make Redis calls, none of the
branches catches `RedisConnectionError`, and an exception that leaves the loop ends the connection.
The first PONG after Redis has gone is enough.

`redisCalls` is the number of calls a frame makes in a given state.  A frame is survived exactly if
none of them fails (`survives_iff`), and then an ACK has released its slots.

* `survives_outage_iff`: a sequence of frames is survived exactly if at each of them the calls it
  makes all succeed;
* `outage_ends_connection`: a PONG that meets a failing call ends the connection.
-/
import Mathlib
import Relay.Lib.Faults
import Relay.Malformed

namespace Relay

open Gateway
open Redis (attempt command)

/-! ## 1. Frames, and what it is to survive one -/

/-- The branches whose frames a connection should survive. -/
def Branch.survivable : Branch → Bool
  | .pong | .ack | .presence | .subscribe | .unsubscribe => true
  | _ => false

/-- A well-formed PONG, ACK, PRESENCE, SUBSCRIBE or UNSUBSCRIBE. -/
def routine (env : Env) (raw : Json) : Bool :=
  wellFormed env raw &&
    match raw with
    | .obj fields => (branchOf fields).survivable
    | _ => false

/-- What an ACK frame acknowledges. -/
def ackOf (env : Env) : Json → Option (Channel × Int)
  | .obj fields => if branchOf fields = .ack then parseAck env fields else none
  | _ => none

/-- The gateway after one frame. -/
def afterFrame (env : Env) (p : Peer) (g : Gateway) (raw : Json) : Gateway :=
  ((turn env p (.json raw)).run g).2

/-- **What a frame should do whatever happens to Redis**: the loop waits for the next frame, the
connection is registered and ACTIVE, and an ACK has released the slots it covers. -/
structure Survives (env : Env) (p : Peer) (g : Gateway) (raw : Json) : Prop where
  loops : ((turn env p (.json raw)).run g).1 = .ok true
  active : isActive p.connectionId (afterFrame env p g raw) = true
  releases : ∀ conn conn' channel sequence,
    g.node.registry.byId.get? p.connectionId = some conn →
    (afterFrame env p g raw).node.registry.byId.get? p.connectionId = some conn' →
    ackOf env raw = some (channel, sequence) →
    conn'.inflight = (conn.onAck env channel sequence).2.inflight

/-- One call, if there is a user. -/
def userCalls (p : Peer) : Nat := if p.userId.isSome then 1 else 0

/-- The Redis calls a frame makes while they succeed. -/
def redisCalls (env : Env) (p : Peer) (g : Gateway) : Json → Nat
  | .obj fields =>
    match branchOf fields with
    -- `touch_session` is HSET and EXPIRE; `refresh` is one pipeline
    | .pong => 2 + userCalls p
    | .presence => userCalls p
    | .subscribe =>
      match parseSubscribe fields with
      | some channel => if channelBelongsToTenant channel p.tenantId then 2 else 0
      | none => 0
    -- only the last local subscriber leaves the room
    | .unsubscribe =>
      match parseUnsubscribe fields with
      | some channel => if g.node.localSubscriberCounts.getD channel 0 - 1 ≤ 0 then 1 else 0
      | none => 0
    -- `record_ack` is GET, and SET if the position advances
    | .ack =>
      match parseAck env fields with
      | some (channel, sequence) =>
        if (Timed.live g.redis.now (g.redis.acks (p.sessionId, channel))).all
          (fun n => decide (n < sequence)) then 2 else 1
      | none => 0
    | _ => 0
  | _ => 0

/-- No Redis call of the frame fails. -/
def CallsSucceed (env : Env) (p : Peer) (g : Gateway) (raw : Json) : Prop :=
  true ∉ g.redis.faults.take (redisCalls env p g raw)

instance (env : Env) (p : Peer) (g : Gateway) (raw : Json) : Decidable (CallsSucceed env p g raw) :=
  inferInstanceAs (Decidable (¬ _))

/-! ## 2. The connection while its frames are handled -/

/-- The sockets work, and the connection is registered and ACTIVE with these slots taken. -/
structure Attended (x : ConnId) (slots : List (Channel × Int)) (g : Gateway) : Prop where
  socket : g.node.socketFaults = []
  conn : (g.node.registry.byId.get? x).map (fun conn => (conn.state, conn.inflight)) =
    some (.active, slots)

/-- `Prog.Spends` for the calls to Redis. -/
abbrev Calls {α : Type} (q : Prog Gateway Exn α) (n : Nat) (g : Gateway)
    (Q : α → Gateway → Prop) : Prop :=
  q.Spends (fun g => g.redis.faults) .redis n g Q

section Calls

variable {α : Type} {x : ConnId} {slots : List (Channel × Int)} {g : Gateway}

theorem attended_iff : (∃ slots, Attended x slots g) ↔
    g.node.socketFaults = [] ∧ isActive x g = true := by
  rw [isActive_iff]
  constructor
  · rintro ⟨slots, hs, hc⟩
    obtain ⟨conn, hconn, heq⟩ := Option.map_eq_some_iff.mp hc
    exact ⟨hs, conn, hconn, congrArg Prod.fst heq⟩
  · rintro ⟨hs, conn, hconn, hactive⟩
    refine ⟨conn.inflight, hs, ?_⟩
    rw [hconn, Option.map_some, hactive]

theorem Attended.isActive (h : Attended x slots g) : isActive x g = true :=
  (attended_iff.mp ⟨slots, h⟩).2

theorem Attended.of_get {g' : Gateway} (h : Attended x slots g)
    (hs : g'.node.socketFaults = g.node.socketFaults)
    (hc : (g'.node.registry.byId.get? x).map (fun conn => (conn.state, conn.inflight)) =
      (g.node.registry.byId.get? x).map (fun conn => (conn.state, conn.inflight))) :
    Attended x slots g' :=
  ⟨hs.trans h.socket, hc.trans h.conn⟩

/-- A change of the process's memory. -/
theorem calls_locally {f : Node → Node} (h : Attended x slots g)
    (hs : (f g.node).socketFaults = g.node.socketFaults)
    (hc : ((f g.node).registry.byId.get? x).map (fun conn => (conn.state, conn.inflight)) =
      (g.node.registry.byId.get? x).map (fun conn => (conn.state, conn.inflight))) :
    Calls (locally f) 0 g (fun _ g' => Attended x slots g') :=
  Prog.spends_modify rfl (h.of_get hs hc)

theorem calls_sendText (frame : ServerFrame) {y : ConnId} (h : Attended x slots g) :
    Calls (sendText y frame) 0 g (fun _ g' => Attended x slots g') :=
  Prog.spends_of_run (run_sendText frame h.socket) rfl
    (h.of_get (socketFaults_write frame g.node) (map_write frame (fun _ _ => rfl)))

/-- **One call to Redis**, of a command that does not fail by itself. -/
theorem calls_command {f : Redis → Except Exn α × Redis} {Q : α → Gateway → Prop}
    (h : ∀ fs, ∃ a r, f { g.redis with faults := fs } = (.ok a, r) ∧ r.faults = fs ∧
      Q a (setRedis r g)) : Calls (withRedis (command f)) 1 g Q := by
  have hrun : (withRedis (command f)).run g =
      ((attempt f g.redis).1, setRedis (attempt f g.redis).2 g) := by
    rw [run_withRedis, command, Prog.run_atomic]
  refine Prog.spends_one ?_ ?_
  · intro rest hf
    rw [hrun, attempt, hf]
  · intro rest hf
    have hup : attempt f g.redis = f { g.redis with faults := rest } := by
      unfold attempt
      rcases hf with hf | ⟨hf, hnil⟩
      · rw [hf]
      · rw [hf, hnil]
        exact congrArg f (congrArg (fun fs => { g.redis with faults := fs }) hf)
    obtain ⟨a, r, hfr, hr, hQ⟩ := h rest
    exact ⟨a, setRedis r g, by rw [hrun, hup, hfr], hr, hQ⟩

/-- A command that answers nothing, while the connection is attended. -/
theorem calls_write {f : Redis → Except Exn Unit × Redis} (h : Attended x slots g)
    (hok : ∀ r, (f r).1 = .ok ()) (hf : ∀ r, (f r).2.faults = r.faults) :
    Calls (withRedis (command f)) 1 g (fun _ g' => Attended x slots g') := by
  refine calls_command (fun fs => ?_)
  exact ⟨(), (f { g.redis with faults := fs }).2, Prod.ext (hok _) rfl, hf _, h.of_get rfl rfl⟩

theorem calls_whenUser {p : Peer} {q : String → Prog Redis Exn Unit}
    (h : ∀ user, Calls (withRedis (q user)) 1 g (fun _ g' => Attended x slots g'))
    (hg : Attended x slots g) :
    Calls (whenUser p.userId q) (userCalls p) g (fun _ g' => Attended x slots g') := by
  unfold whenUser userCalls
  cases p.userId with
  | none => exact Prog.spends_ret hg
  | some user => exact h user

end Calls

/-! ## 3. The branches -/

section Branches

variable {env : Env} {p : Peer} {slots : List (Channel × Int)} {g : Gateway}

/-- The handling of a frame that returns true with the connection attended. -/
abbrev Handles (q : Prog Gateway Exn Bool) (n : Nat) (x : ConnId) (slots : List (Channel × Int))
    (g : Gateway) : Prop :=
  Calls q n g (fun again g' => again = true ∧ Attended x slots g')

/-- The answer at the end of a branch. -/
theorem handles_reply (frame : ServerFrame) (h : Attended p.connectionId slots g) :
    Handles ((sendText p.connectionId frame).bind fun _ => .ret true) 0 p.connectionId slots g :=
  (calls_sendText frame h).bind_last fun _ _ h' => Prog.spends_ret ⟨rfl, h'⟩

theorem calls_touchSession (sessionId : String) (nodeId : NodeId)
    (h : Attended p.connectionId slots g) :
    Calls (withRedis (Sessions.touchSession env sessionId nodeId)) 2 g
      (fun _ g' => Attended p.connectionId slots g') := by
  unfold Sessions.touchSession withRedis
  rw [Prog.bind_eq, Prog.lift_bind]
  refine Prog.Spends.bind (n := 1) (m := 1) (calls_write h (fun _ => rfl) (fun _ => rfl)) ?_
  intro _ g' h'
  exact calls_write h' (fun _ => rfl) (fun _ => rfl)

theorem handles_onPong (h : Attended p.connectionId slots g) :
    Handles (onPong env p) (2 + userCalls p) p.connectionId slots g := by
  have hstamp : Attended p.connectionId slots (setNode (g.node.updateConn p.connectionId
      (fun conn => { conn with lastPongAt := g.redis.now })) g) :=
    h.of_get rfl (map_frame (Registry.get_updateConn _ _ _ _) (fun _ => rfl))
  refine Prog.Spends.bind_free (P := fun _ g' => Attended p.connectionId slots g')
    (Prog.spends_modify rfl hstamp) ?_
  intro _ g₁ h₁
  refine Prog.Spends.bind (calls_touchSession p.sessionId env.settings.nodeId h₁) ?_
  intro _ g₂ h₂
  refine Prog.Spends.bind_last (calls_whenUser (fun user => ?_) h₂) ?_
  · exact calls_write h₂ (fun _ => rfl) (fun _ => rfl)
  · intro _ g₃ h₃
    exact Prog.spends_ret ⟨rfl, h₃⟩

theorem handles_onPresence (fields : List (String × Json)) (h : Attended p.connectionId slots g) :
    Handles (onPresence env p fields) (userCalls p) p.connectionId slots g := by
  refine Prog.Spends.bind_last (calls_whenUser (fun user => ?_) h) ?_
  · unfold Presence.setState
    split
    · exact calls_write h (fun _ => rfl) (fun _ => rfl)
    · exact calls_write h (fun _ => rfl) (fun _ => rfl)
  · intro _ g' h'
    exact Prog.spends_ret ⟨rfl, h'⟩

theorem handles_attachChannel (channel : Channel) (h : Attended p.connectionId slots g) :
    Handles (attachChannel env p channel) 2 p.connectionId slots g := by
  refine Prog.Spends.bind_free (calls_locally h rfl ?_) ?_
  · exact map_frame (Registry.get_subscribe _ _ _ _) (fun _ => rfl)
  intro _ g₁ h₁
  refine Prog.Spends.bind_last (P := fun _ g' => Attended p.connectionId slots g') ?_ ?_
  · refine Prog.Spends.bind_free (calls_locally h₁ rfl rfl) ?_
    intro _ g₂ h₂
    refine Prog.Spends.bind (n := 1) (m := 1) (calls_write h₂ (fun _ => rfl) (fun _ => rfl)) ?_
    intro _ g₃ h₃
    refine Prog.Spends.bind_last (calls_write h₃ (fun _ => rfl) (fun _ => rfl)) ?_
    intro _ g₄ h₄
    refine calls_locally h₄ (socketFaults_startListener channel g₄.node) ?_
    rw [Node.registry_startListener]
  · intro _ g₅ h₅
    exact handles_reply _ h₅

theorem handles_onSubscribe {fields : List (String × Json)} {channel : Channel}
    (hparse : parseSubscribe fields = some channel) (h : Attended p.connectionId slots g) :
    Handles (onSubscribe env p fields)
      (if channelBelongsToTenant channel p.tenantId then 2 else 0) p.connectionId slots g := by
  unfold onSubscribe
  rw [hparse]
  simp only
  split
  · exact handles_attachChannel channel h
  · exact handles_reply _ h

/-- The last local subscriber of a channel makes one call when it leaves. -/
theorem calls_onLocalUnsubscribe (channel : Channel) (h : Attended p.connectionId slots g) :
    Calls (onLocalUnsubscribe env channel)
      (if g.node.localSubscriberCounts.getD channel 0 - 1 ≤ 0 then 1 else 0) g
      (fun _ g' => Attended p.connectionId slots g') := by
  have hcount : Attended p.connectionId slots (setNode (g.node.countDown channel).2 g) := by
    refine h.of_get (socketFaults_countDown channel g.node) ?_
    show Option.map _ ((g.node.countDown channel).2.registry.byId.get? p.connectionId) = _
    rw [Node.registry_countDown]
  have hlast : (g.node.countDown channel).1 =
      decide (g.node.localSubscriberCounts.getD channel 0 - 1 ≤ 0) := by
    unfold Node.countDown
    split
    · rename_i hle
      exact (decide_eq_true hle).symm
    · rename_i hgt
      exact (decide_eq_false hgt).symm
  refine Prog.Spends.bind_free (P := fun last g' =>
    last = decide (g.node.localSubscriberCounts.getD channel 0 - 1 ≤ 0) ∧
      Attended p.connectionId slots g') (Prog.spends_of_run rfl rfl ⟨hlast, hcount⟩) ?_
  rintro last g' ⟨rfl, h'⟩
  by_cases hle : g.node.localSubscriberCounts.getD channel 0 - 1 ≤ 0
  · rw [if_pos hle, decide_eq_true hle, if_pos rfl]
    exact calls_write h' (fun _ => rfl) (fun _ => rfl)
  · rw [if_neg hle, decide_eq_false hle, if_neg Bool.false_ne_true]
    exact Prog.spends_ret h'

theorem handles_onUnsubscribe {fields : List (String × Json)} {channel : Channel}
    (hparse : parseUnsubscribe fields = some channel) (h : Attended p.connectionId slots g) :
    Handles (onUnsubscribe env p fields)
      (if g.node.localSubscriberCounts.getD channel 0 - 1 ≤ 0 then 1 else 0)
      p.connectionId slots g := by
  unfold onUnsubscribe
  rw [hparse]
  have hdetached : Attended p.connectionId slots
      (setNode (g.node.unsubscribe p.connectionId channel) g) :=
    h.of_get rfl (map_frame (Registry.get_unsubscribe _ _ _ _) (fun _ => rfl))
  refine Prog.Spends.bind_free (P := fun _ g' => Attended p.connectionId slots g' ∧
    g'.node.localSubscriberCounts = g.node.localSubscriberCounts)
    (Prog.spends_modify rfl ⟨hdetached, rfl⟩) ?_
  rintro _ g₁ ⟨h₁, hcounts⟩
  rw [← hcounts]
  refine Prog.Spends.bind_last (calls_onLocalUnsubscribe channel h₁) ?_
  intro _ g₂ h₂
  exact handles_reply _ h₂

/-- GET, and SET if the position advances. -/
theorem calls_recordAck (channel : Channel) (sequence : Int) (h : Attended p.connectionId slots g) :
    Calls (withRedis (Sessions.recordAck env p.sessionId channel sequence))
      (if (Timed.live g.redis.now (g.redis.acks (p.sessionId, channel))).all
        (fun n => decide (n < sequence)) then 2 else 1) g
      (fun _ g' => Attended p.connectionId slots g') := by
  unfold Sessions.recordAck withRedis
  rw [Prog.bind_eq, Prog.lift_bind]
  have hread : Calls (withRedis (command (fun r =>
      (.ok (Timed.live r.now (r.acks (p.sessionId, channel))), r)))) 1 g (fun current g' =>
        current = Timed.live g.redis.now (g.redis.acks (p.sessionId, channel)) ∧
          Attended p.connectionId slots g') := by
    refine calls_command (fun fs => ?_)
    exact ⟨_, { g.redis with faults := fs }, rfl, rfl, rfl, h.of_get rfl rfl⟩
  split
  · rename_i hadvance
    refine Prog.Spends.bind (n := 1) (m := 1) hread ?_
    rintro current g' ⟨rfl, h'⟩
    rw [if_pos hadvance]
    exact calls_write h' (fun _ => rfl) (fun _ => rfl)
  · rename_i hold
    refine Prog.Spends.bind_last hread ?_
    rintro current g' ⟨rfl, h'⟩
    rw [if_neg hold]
    exact Prog.spends_ret h'

/-- The slots an ACK leaves. -/
def slotsAfter (slots : List (Channel × Int)) : Option (Channel × Int) → List (Channel × Int)
  | some (channel, sequence) =>
    slots.filter (fun e => !(decide (e.1 = channel) && decide (e.2 ≤ sequence)))
  | none => slots

theorem handles_onAckFrame {fields : List (String × Json)} {channel : Channel} {sequence : Int}
    (hparse : parseAck env fields = some (channel, sequence))
    (h : Attended p.connectionId slots g) :
    Handles (onAckFrame env p fields)
      (if (Timed.live g.redis.now (g.redis.acks (p.sessionId, channel))).all
        (fun n => decide (n < sequence)) then 2 else 1)
      p.connectionId (slotsAfter slots (some (channel, sequence))) g := by
  unfold onAckFrame
  rw [hparse]
  refine Prog.Spends.bind_last (calls_recordAck channel sequence h) ?_
  intro _ g₁ h₁
  obtain ⟨conn, hconn, heq⟩ := Option.map_eq_some_iff.mp h₁.conn
  have hacked : Attended p.connectionId (slotsAfter slots (some (channel, sequence)))
      (setNode (g₁.node.updateConn p.connectionId
        (fun conn => (conn.onAck env channel sequence).2)) g₁) := by
    refine ⟨h₁.socket, ?_⟩
    show Option.map _ ((g₁.node.registry.updateConn p.connectionId _).byId.get? p.connectionId) = _
    rw [Registry.get_updateConn, if_pos rfl, hconn, Option.map_some, Option.map_some]
    have hstate : conn.state = .active := congrArg Prod.fst heq
    have hslots : conn.inflight = slots := congrArg Prod.snd heq
    refine congrArg some (Prod.ext hstate ?_)
    show conn.inflight.filter _ = _
    rw [hslots]
    rfl
  refine Prog.Spends.bind_free
    (P := fun _ g' => Attended p.connectionId (slotsAfter slots (some (channel, sequence))) g')
    (Prog.spends_modify rfl hacked) ?_
  intro _ g₂ h₂
  exact Prog.spends_ret ⟨rfl, h₂⟩

/-- **One frame**: what it calls, and what it leaves if the calls succeed. -/
theorem handles_onFrame {raw : Json} (hraw : routine env raw = true)
    (h : Attended p.connectionId slots g) :
    Handles (onFrame env p raw) (redisCalls env p g raw) p.connectionId
      (slotsAfter slots (ackOf env raw)) g := by
  unfold routine at hraw
  cases raw with
  | obj fields =>
    simp only [wellFormed, Bool.and_eq_true] at hraw
    obtain ⟨hw, hs⟩ := hraw
    simp only [onFrame, redisCalls, ackOf]
    cases hb : branchOf fields with
    | pong => exact handles_onPong h
    | presence => exact handles_onPresence fields h
    | subscribe =>
      rw [hb] at hw
      obtain ⟨channel, hparse⟩ := Option.isSome_iff_exists.mp hw
      simp only [hparse]
      exact handles_onSubscribe hparse h
    | unsubscribe =>
      rw [hb] at hw
      obtain ⟨channel, hparse⟩ := Option.isSome_iff_exists.mp hw
      simp only [hparse]
      exact handles_onUnsubscribe hparse h
    | ack =>
      rw [hb] at hw
      obtain ⟨⟨channel, sequence⟩, hparse⟩ := Option.isSome_iff_exists.mp hw
      simp only [hparse, if_true]
      exact handles_onAckFrame hparse h
    | resume => rw [hb] at hs; cases hs
    | disconnect => rw [hb] at hs; cases hs
    | other => rw [hb] at hs; cases hs
  | _ => simp [wellFormed] at hraw

end Branches

/-! ## 4. One turn of the loop -/

section Turn

variable {env : Env} {p : Peer} {slots : List (Channel × Int)} {g : Gateway} {raw : Json}

/-- After an exception the loop is left, whatever becomes of the cleanup. -/
theorem turn_error {e : Exn} (herr : ((onFrame env p raw).run g).1 = .error e) :
    ((turn env p (.json raw)).run g).1 ≠ .ok true := by
  have hbody : (onReceived env p (.json raw)).try_.run g =
      (.ok (.error e), ((onFrame env p raw).run g).2) := by
    rw [Prog.run_try]
    exact Prod.ext (congrArg Except.ok herr) rfl
  rw [turn, Prog.run_bind_ok hbody]
  intro htrue
  have hret : (afterBody env p (.error e)).Returns (fun b => b = false) := by
    refine (Prog.Returns.any _).bind fun _ _ => ?_
    split
    · exact rfl
    · trivial
  have hrun := Prog.run_returns hret (Prod.ext htrue rfl :
    (afterBody env p (.error e)).run _ = (.ok true, _))
  cases hrun

/-- The loop goes on after a frame that has been handled, if the connection is ACTIVE. -/
theorem turn_ok {g' : Gateway} (hrun : (onFrame env p raw).run g = (.ok true, g'))
    (hactive : isActive p.connectionId g' = true) :
    (turn env p (.json raw)).run g = (.ok true, g') := by
  have hbody : (onReceived env p (.json raw)).try_.run g = (.ok (.ok true), g') := by
    rw [Prog.run_try]
    show (Except.ok ((onFrame env p raw).run g).1, ((onFrame env p raw).run g).2) = _
    rw [hrun]
  rw [turn, Prog.run_bind_ok hbody]
  simp only [afterBody, Prog.bind_eq, Prog.run_bind, Prog.run_act, hactive, if_true]
  rfl

/-- **A frame is survived exactly if its calls succeed.**  The connection is then attended again,
for the next frame. -/
theorem survives_iff (hraw : routine env raw = true) (h : Attended p.connectionId slots g) :
    (Survives env p g raw ↔ CallsSucceed env p g raw) ∧
      (Survives env p g raw →
        Attended p.connectionId (slotsAfter slots (ackOf env raw)) (afterFrame env p g raw)) := by
  have hframe : Handles (onFrame env p raw) (redisCalls env p g raw) p.connectionId
      (slotsAfter slots (ackOf env raw)) g := handles_onFrame hraw h
  have hup : CallsSucceed env p g raw → Survives env p g raw ∧
      Attended p.connectionId (slotsAfter slots (ackOf env raw)) (afterFrame env p g raw) := by
    intro hok
    obtain ⟨again, g', hrun, -, rfl, h'⟩ := hframe.up hok
    have hturn := turn_ok hrun h'.isActive
    have hafter : afterFrame env p g raw = g' := congrArg Prod.snd hturn
    rw [hafter]
    refine ⟨⟨congrArg Prod.fst hturn, hafter ▸ h'.isActive, ?_⟩, h'⟩
    intro conn conn' channel sequence hconn hconn' hack
    rw [hafter] at hconn'
    have h1 := h.conn
    have h2 := h'.conn
    rw [hconn] at h1
    rw [hconn', hack] at h2
    have hslots : conn.inflight = slots := congrArg Prod.snd (Option.some.inj h1)
    have hleft : conn'.inflight = slotsAfter slots (some (channel, sequence)) :=
      congrArg Prod.snd (Option.some.inj h2)
    rw [hleft, ← hslots]
    rfl
  have hdown : Survives env p g raw → CallsSucceed env p g raw := by
    intro hs hmem
    exact turn_error (hframe.down hmem) hs.loops
  exact ⟨⟨hdown, fun hok => (hup hok).1⟩, fun hs => (hup (hdown hs)).2⟩

end Turn

/-! ## 5. Sequences of frames -/

/-- A run of frames from an attended connection: as long as the calls succeed it stays attended. -/
theorem along_survives_iff {env : Env} {p : Peer} : ∀ (frames : List Json) {g : Gateway}
    {slots : List (Channel × Int)}, (∀ raw ∈ frames, routine env raw = true) →
      Attended p.connectionId slots g →
      (Along (afterFrame env p) (Survives env p) g frames ↔
        Along (afterFrame env p) (CallsSucceed env p) g frames)
  | [], _, _, _, _ => Iff.rfl
  | raw :: frames, g, slots, hframes, h => by
    obtain ⟨hiff, hnext⟩ := survives_iff (hframes raw List.mem_cons_self) h
    have hrest : ∀ raw ∈ frames, routine env raw = true :=
      fun r hr => hframes r (List.mem_cons_of_mem _ hr)
    constructor
    · rintro ⟨hs, hlater⟩
      exact ⟨hiff.mp hs, (along_survives_iff frames hrest (hnext hs)).mp hlater⟩
    · rintro ⟨hok, hlater⟩
      have hs := hiff.mpr hok
      exact ⟨hs, (along_survives_iff frames hrest (hnext hs)).mpr hlater⟩

/-- **When a connection survives an outage.**  For an ACTIVE connection with its socket working, any
failure pattern of Redis and any sequence of well-formed PONG, ACK, PRESENCE, SUBSCRIBE and
UNSUBSCRIBE frames: every frame of the sequence is survived if and only if at each of them none of
the Redis calls it makes fails. -/
theorem survives_outage_iff (env : Env) (p : Peer) (g : Gateway)
    (hactive : isActive p.connectionId g = true) (hsocket : g.node.socketFaults = [])
    (frames : List Json) (hframes : ∀ raw ∈ frames, routine env raw = true) :
    Along (afterFrame env p) (Survives env p) g frames ↔
      Along (afterFrame env p) (CallsSucceed env p) g frames := by
  obtain ⟨slots, h⟩ := attended_iff.mpr ⟨hsocket, hactive⟩
  exact along_survives_iff frames hframes h

/-- The gateway of `servedGateway`, with the given failures ahead. -/
def servedUnder (faults : List Bool) : Gateway :=
  setRedis { servedGateway.redis with faults := faults } servedGateway

/-- A PONG and an ACK go through if the calls they make succeed, even if Redis fails later. -/
theorem frames_survive_while_up :
    Along (afterFrame (.plain {}) servedPeer) (Survives (.plain {}) servedPeer)
      (servedUnder [false, false, false, false, false, true])
      [ClientFrame.pong.toJson, (ClientFrame.ack "t-a:c" 1).toJson] := by
  refine (survives_outage_iff _ _ _ (by decide +kernel) (by decide +kernel) _ ?_).mpr ?_
  · decide +kernel
  · decide +kernel

/-- **The first PONG after Redis has gone ends the connection.** -/
theorem outage_ends_connection :
    isActive servedPeer.connectionId (servedUnder [true]) = true ∧
    (servedUnder [true]).node.socketFaults = [] ∧
    routine (.plain {}) ClientFrame.pong.toJson = true ∧
    ((turn (.plain {}) servedPeer (.json ClientFrame.pong.toJson)).run (servedUnder [true])).1.isOk =
      false ∧
    isActive servedPeer.connectionId
      (afterFrame (.plain {}) servedPeer (servedUnder [true]) ClientFrame.pong.toJson) = false ∧
    ¬ Survives (.plain {}) servedPeer (servedUnder [true]) ClientFrame.pong.toJson := by
  have hgone : isActive servedPeer.connectionId
      (afterFrame (.plain {}) servedPeer (servedUnder [true]) ClientFrame.pong.toJson) = false := by
    decide +kernel
  refine ⟨by decide +kernel, by decide +kernel, by decide +kernel, by decide +kernel, hgone, ?_⟩
  intro h
  exact absurd (hgone.symm.trans h.active) (by simp)

end Relay
