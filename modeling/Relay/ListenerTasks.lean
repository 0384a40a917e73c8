/-
# One listener per channel, whatever overlaps

`on_local_subscribe` raises the channel's number first, then waits for Redis twice, and only then
looks for a listener and starts one if there is none.  `on_local_unsubscribe` lowers the number and,
at zero, stops the listener, before it waits for Redis.  Calls of several connections overlap in any
way in between (`rooms/subscriptions.py`).

The number counts the subscribers that have begun, so it cannot reach zero while a call that has
begun has not been matched by an unsubscribe.  It follows (`one_listener_per_channel`) that

* the listener tasks that were ever started for the channel are those that have been cancelled,
  in order, and the one the manager holds, so a second one is never alive beside it;
* when no call is in progress the number is that of the completed subscribes minus the
  unsubscribes, with no entry at zero, and there is a listener exactly if it is positive.
-/
import Mathlib
import Relay.Listeners
import Relay.Lib.Stages

namespace Relay

open Gateway Redis Stages

/-! ## 1. The calls by stages -/

/-- How far a call of the subscription manager has come. -/
inductive CallStage
  | subscribe (caller : ConnId) (channel : Channel)
  /-- The number has been raised: before SADD. -/
  | counted (caller : ConnId) (channel : Channel)
  /-- Before EXPIRE. -/
  | added (caller : ConnId) (channel : Channel)
  /-- Before the look at the listener. -/
  | starting (caller : ConnId) (channel : Channel)
  | subscribed (caller : ConnId) (channel : Channel)
  | unsubscribe (caller : ConnId) (channel : Channel)
  /-- The number has reached zero: before SREM. -/
  | leaving (caller : ConnId) (channel : Channel)
  | unsubscribed (caller : ConnId) (channel : Channel)
  | failed (e : Exn)
  deriving DecidableEq, Repr

/-- A command on the store, as one step of the process. -/
theorem withRedis_command {α : Type} (f : Redis → Except Exn α × Redis) :
    withRedis (command f) =
      Prog.atomic (fun g => ((attempt f g.redis).1, setRedis (attempt f g.redis).2 g)) := by
  simp only [withRedis, command, Prog.atomic, Prog.lift]
  congr 1
  funext g
  cases (attempt f g.redis).1 <;> rfl

namespace CallStage

section

variable (env : Env)

/-- The rest of the program from a stage on. -/
def prog : CallStage → Prog Gateway Exn Unit
  | subscribe _ c => onLocalSubscribe env c
  | counted _ c => do
    withRedis (command (roomAdd c env.settings.nodeId))
    withRedis (command (roomExpire c (env.settings.nodeTtlSeconds * 3)))
    locally (Node.startListener c)
  | added _ c => do
    withRedis (command (roomExpire c (env.settings.nodeTtlSeconds * 3)))
    locally (Node.startListener c)
  | starting _ c => locally (Node.startListener c)
  | subscribed _ _ => .ret ()
  | unsubscribe _ c => onLocalUnsubscribe env c
  | leaving _ c => withRedis (command (roomRemove c env.settings.nodeId))
  | unsubscribed _ _ => .ret ()
  | failed e => .raise e

/-- A command of a call that leads to `onOk`. -/
def onStore (f : Redis → Except Exn Unit × Redis) (onOk : CallStage) (g : Gateway) :
    Gateway × CallStage :=
  settle (fun _ => onOk) failed ((attempt f g.redis).1, setRedis (attempt f g.redis).2 g)

/-- The next step of a call. -/
def next (st : CallStage) (g : Gateway) : Gateway × CallStage :=
  match st with
  | subscribe p c => (setNode (g.node.countUp c) g, counted p c)
  | counted p c => onStore (roomAdd c env.settings.nodeId) (added p c) g
  | added p c => onStore (roomExpire c (env.settings.nodeTtlSeconds * 3)) (starting p c) g
  | starting p c => (setNode (g.node.startListener c) g, subscribed p c)
  | subscribed p c => (g, subscribed p c)
  | unsubscribe p c => (setNode (g.node.countDown c).2 g,
      if (g.node.countDown c).1 then leaving p c else unsubscribed p c)
  | leaving p c => onStore (roomRemove c env.settings.nodeId) (unsubscribed p c) g
  | unsubscribed p c => (g, unsubscribed p c)
  | failed e => (g, failed e)

theorem sound : Sound (prog env) (next env) := by
  intro st
  cases st with
  | subscribe p c => exact Or.inl ⟨_, _, rfl, fun g => ⟨rfl, rfl⟩⟩
  | counted p c =>
    refine sound_atomic (fun _ => added p c) failed ?_ (fun _ => rfl) (fun _ => rfl) (fun _ => rfl)
    exact congrArg (Prog.bind · _) (withRedis_command _)
  | added p c =>
    refine sound_atomic (fun _ => starting p c) failed ?_ (fun _ => rfl) (fun _ => rfl)
      (fun _ => rfl)
    exact congrArg (Prog.bind · _) (withRedis_command _)
  | starting p c => exact Or.inl ⟨_, _, rfl, fun g => ⟨rfl, rfl⟩⟩
  | subscribed p c => exact sound_ret rfl (fun _ => rfl)
  | unsubscribe p c =>
    refine Or.inl ⟨_, _, rfl, fun g => ⟨rfl, ?_⟩⟩
    simp only [next]
    cases (g.node.countDown c).1 <;> rfl
  | leaving p c =>
    refine sound_atomic (fun _ => unsubscribed p c) failed (k := .ret) ?_ (fun _ => rfl)
      (fun _ => rfl) (fun _ => rfl)
    exact (withRedis_command _).trans (Prog.bind_ret _).symm
  | unsubscribed p c => exact sound_ret rfl (fun _ => rfl)
  | failed e => exact sound_raise rfl (fun _ => rfl)

end

/-- A call that has not begun. -/
def fresh : CallStage → Bool
  | subscribe _ _ | unsubscribe _ _ => true
  | _ => false

/-- A call that has begun and not returned. -/
def inProgress : CallStage → Bool
  | counted _ _ | added _ _ | starting _ _ | leaving _ _ => true
  | _ => false

/-- A subscribe of the channel that has begun. -/
def entered (c : Channel) : CallStage → Bool
  | counted _ d | added _ d | starting _ d | subscribed _ d => decide (d = c)
  | _ => false

/-- The caller of a subscribe of the channel that has completed. -/
def completedBy (c : Channel) : CallStage → Option ConnId
  | subscribed p d => if d = c then some p else none
  | _ => none

/-- The caller of an unsubscribe of the channel that has begun. -/
def leftBy (c : Channel) : CallStage → Option ConnId
  | leaving p d | unsubscribed p d => if d = c then some p else none
  | _ => none

end CallStage

/-! ## 2. The process -/

/-- A step of a call, of a listener task, or of a cancelled listener. -/
inductive ManagerAct
  | call (i : Nat)
  | listener (channel : Channel) (a : ListenerAct)
  | reap
  deriving DecidableEq, Repr

/-- The calls over the process, with the listener tasks that were started for the channel so far and
those of them that were cancelled. -/
structure Managed where
  tasks : Tasks Gateway CallStage
  spawned : List Nat := []
  ended : List Nat := []

namespace Managed

/-- The callers of the completed subscribes of a channel. -/
def completed (c : Channel) (stages : List CallStage) : List ConnId :=
  stages.filterMap (CallStage.completedBy c)

/-- The callers of its unsubscribes. -/
def left (c : Channel) (stages : List CallStage) : List ConnId :=
  stages.filterMap (CallStage.leftBy c)

/-- The listener tasks a step starts for the channel: they have new numbers. -/
def spawnedBy (c : Channel) (n n' : Node) : List Nat :=
  ((n'.listeners.get? c).toList.map Listener.task).filter (fun t => decide (n.nextTask ≤ t))

/-- The listener tasks of the channel a step cancels. -/
def endedBy (c : Channel) (n n' : Node) : List Nat :=
  ((n'.retired.drop n.retired.length).filter (fun e => decide (e.1 = c) && e.2.cancelled)).map
    (fun e => e.2.task)

/-- The calls and the process after a step. -/
def move (env : Env) (t : Tasks Gateway CallStage) : ManagerAct → Tasks Gateway CallStage
  | .call i => t.step (CallStage.next env) i
  | .listener d a => { t with state := listenerStep env d a t.state }
  | .reap => { t with state := Gateway.reap env t.state }

/-- One step. -/
def step (env : Env) (c : Channel) (w : Managed) (a : ManagerAct) : Managed where
  tasks := move env w.tasks a
  spawned := w.spawned ++ spawnedBy c w.tasks.state.node (move env w.tasks a).state.node
  ended := w.ended ++ endedBy c w.tasks.state.node (move env w.tasks a).state.node

/-- A step of a call is one of its program. -/
theorem toPool_call (env : Env) (c : Channel) (w : Managed) (i : Nat) :
    (w.step env c (.call i)).tasks.toPool (CallStage.prog env) =
      (w.tasks.toPool (CallStage.prog env)).step i :=
  Tasks.toPool_step (CallStage.sound env) w.tasks i

/-- An unsubscribe begins only when a subscribe of its caller has completed that no other one
matches. -/
def Matched (w : Managed) : ManagerAct → Prop
  | .call i => ∀ st ∈ w.tasks.stages[i]?, match st with
      | .unsubscribe p d =>
        (left d w.tasks.stages).count p < (completed d w.tasks.stages).count p
      | _ => True
  | _ => True

instance (w : Managed) (a : ManagerAct) : Decidable (w.Matched a) := by
  have : ∀ st : CallStage, Decidable (match st with
      | .unsubscribe p d =>
        (left d w.tasks.stages).count p < (completed d w.tasks.stages).count p
      | _ => True) := fun st => by split <;> infer_instance
  cases a <;> unfold Matched <;> infer_instance

end Managed

/-! ## 3. What the manager holds for a channel -/

/-- The number is `k`, with no entry at zero; a listener is held only while it is positive, and is
alive; and the listener tasks started so far are those that ended and the one held. -/
structure Node.Carries (c : Channel) (k : Nat) (spawned ended : List Nat) (n : Node) : Prop where
  count : n.localSubscriberCounts.get? c = if k = 0 then none else some (k : Int)
  needed : (n.listeners.get? c).isSome → 0 < k
  live : ∀ l ∈ n.listeners.get? c, l.Live
  tasks : spawned = ended ++ (n.listeners.get? c).toList.map Listener.task
  fresh : ∀ t ∈ spawned, t < n.nextTask
  nodup : spawned.Nodup

namespace Node

open Managed

variable {c d : Channel} {k k' : Nat} {spawned ended : List Nat} {n n' : Node}

theorem Carries.getD (h : n.Carries c k spawned ended) :
    n.localSubscriberCounts.getD c 0 = k := by
  rw [Dict.getD, h.count]
  split
  · rename_i hk
    rw [hk]
    rfl
  · rfl

/-- A step that keeps the listener of the channel. -/
theorem Carries.keep (h : n.Carries c k spawned ended)
    (hcount : n'.localSubscriberCounts.get? c = if k' = 0 then none else some (k' : Int))
    (hk : (n.listeners.get? c).isSome → 0 < k')
    (htask : (n'.listeners.get? c).map Listener.task = (n.listeners.get? c).map Listener.task)
    (hlive : ∀ l ∈ n'.listeners.get? c, l.Live) (hnext : n.nextTask ≤ n'.nextTask)
    (hretired : ∀ e ∈ n'.retired.drop n.retired.length, e.1 ≠ c) :
    n'.Carries c k' (spawned ++ spawnedBy c n n') (ended ++ endedBy c n n') := by
  have htasks : (n'.listeners.get? c).toList.map Listener.task =
      (n.listeners.get? c).toList.map Listener.task := by
    rw [← Option.toList_map, ← Option.toList_map, htask]
  have hspawned : spawnedBy c n n' = [] := by
    rw [spawnedBy, htasks, List.filter_eq_nil_iff]
    intro t ht
    have hmem : t ∈ spawned := h.tasks ▸ List.mem_append_right _ ht
    simpa using h.fresh t hmem
  have hended : endedBy c n n' = [] := by
    rw [endedBy, List.map_eq_nil_iff, List.filter_eq_nil_iff]
    intro e he
    simp [hretired e he]
  rw [hspawned, hended, List.append_nil, List.append_nil]
  refine ⟨hcount, fun hs => hk ?_, hlive, htasks ▸ h.tasks,
    fun t ht => (h.fresh t ht).trans_le hnext, h.nodup⟩
  have := congrArg Option.isSome htask
  simpa [hs] using this.symm

/-- A step that touches nothing of the channel. -/
theorem Carries.same (h : n.Carries c k spawned ended)
    (hcount : n'.localSubscriberCounts.get? c = n.localSubscriberCounts.get? c)
    (hlisten : n'.listeners.get? c = n.listeners.get? c) (hnext : n.nextTask ≤ n'.nextTask)
    (hretired : ∀ e ∈ n'.retired.drop n.retired.length, e.1 ≠ c) :
    n'.Carries c k (spawned ++ spawnedBy c n n') (ended ++ endedBy c n n') :=
  h.keep (hcount.trans h.count) h.needed (by rw [hlisten]) (by rw [hlisten]; exact h.live) hnext
    hretired

theorem Carries.refl (h : n.Carries c k spawned ended) :
    n.Carries c k (spawned ++ spawnedBy c n n) (ended ++ endedBy c n n) :=
  h.same rfl rfl (le_refl _) (by simp)

theorem Carries.countUp (h : n.Carries c k spawned ended) (d : Channel) :
    (n.countUp d).Carries c (k + if d = c then 1 else 0)
      (spawned ++ spawnedBy c n (n.countUp d)) (ended ++ endedBy c n (n.countUp d)) := by
  split
  · rename_i hd
    subst hd
    refine h.keep ?_ (fun _ => Nat.succ_pos k) rfl h.live (le_refl _) (by simp [Node.countUp])
    simp [Node.countUp, h.getD]
  · rename_i hd
    refine h.same ?_ rfl (le_refl _) (by simp [Node.countUp])
    simp [Node.countUp, Ne.symm hd]

theorem Carries.startListener (h : n.Carries c k spawned ended) (hk : 0 < k) :
    (n.startListener c).Carries c k (spawned ++ spawnedBy c n (n.startListener c))
        (ended ++ endedBy c n (n.startListener c)) ∧
      ((n.startListener c).listeners.get? c).isSome := by
  unfold Node.startListener
  cases hl : n.listeners.get? c with
  | some l =>
    simp only [(h.live l hl).2.2, if_false]
    exact ⟨h.refl, by rw [hl]; rfl⟩
  | none =>
    have htasks := h.tasks
    rw [hl] at htasks
    have hstored : (n.newListener c).listeners.get? c = some { task := n.nextTask } := by
      simp [newListener]
    have hspawned : spawnedBy c n (n.newListener c) = [n.nextTask] := by
      simp [spawnedBy, hstored]
    have hended : endedBy c n (n.newListener c) = [] := by
      simp [endedBy, newListener]
    simp only [hspawned, hended, List.append_nil]
    refine ⟨⟨h.count, fun _ => hk, ?_, ?_, ?_, ?_⟩, by rw [hstored]; rfl⟩
    · intro l' hl'
      rw [hstored] at hl'
      obtain rfl := Option.some.inj hl'
      exact ⟨rfl, rfl, by simp⟩
    · rw [hstored, htasks]
      simp
    · intro t ht
      rcases List.mem_append.mp ht with ht | ht
      · exact (h.fresh t ht).trans (Nat.lt_succ_self _)
      · rw [List.mem_singleton.mp ht]
        exact Nat.lt_succ_self _
    · refine List.nodup_append.mpr ⟨h.nodup, List.nodup_singleton _, fun a ha b hb => ?_⟩
      rw [List.mem_singleton.mp hb]
      exact Nat.ne_of_lt (h.fresh a ha)

theorem Carries.startListener_of_ne (h : n.Carries c k spawned ended) (hd : d ≠ c) :
    (n.startListener d).Carries c k (spawned ++ spawnedBy c n (n.startListener d))
      (ended ++ endedBy c n (n.startListener d)) := by
  refine h.same (by rw [counts_startListener]) (listeners_startListener_of_ne (Ne.symm hd) n) ?_ ?_
  · unfold Node.startListener
    split
    · exact Nat.le_succ _
    · split
      · exact Nat.le_succ _
      · exact le_refl _
  · unfold Node.startListener
    split
    · simp [newListener]
    · split <;> simp [newListener]

theorem Carries.countDown (h : n.Carries c k spawned ended) (hk : 0 < k) :
    (n.countDown c).2.Carries c (k - 1) (spawned ++ spawnedBy c n (n.countDown c).2)
        (ended ++ endedBy c n (n.countDown c).2) ∧
      (0 < k - 1 → (n.countDown c).2.listeners.get? c = n.listeners.get? c) := by
  unfold Node.countDown
  rw [h.getD]
  split
  · -- the last subscriber leaves
    rename_i hle
    have hzero : k - 1 = 0 := by omega
    refine ⟨?_, fun hpos => absurd hpos (by omega)⟩
    rw [hzero]
    unfold stopListener
    cases hl : n.listeners.get? c with
    | none =>
      refine h.keep ?_ (by simp [hl]) rfl h.live (le_refl _) (by simp)
      simp
    | some l =>
      have htasks := h.tasks
      rw [hl] at htasks
      refine ⟨by simp, by simp, by simp, ?_, ?_, ?_⟩
      · simpa [spawnedBy, endedBy] using htasks
      · simpa [spawnedBy] using h.fresh
      · simpa [spawnedBy] using h.nodup
  · rename_i hgt
    refine ⟨h.keep ?_ (fun _ => by omega) rfl h.live (le_refl _) (by simp), fun _ => rfl⟩
    have hne : k - 1 ≠ 0 := by omega
    rw [if_neg hne]
    simp only [Dict.get?_set, if_true]
    congr 1
    omega

theorem listeners_countDown_of_ne (h : c ≠ d) (n : Node) :
    (n.countDown d).2.listeners.get? c = n.listeners.get? c := by
  unfold Node.countDown
  split
  · exact listeners_stopListener_of_ne h _
  · rfl

theorem Carries.countDown_of_ne (h : n.Carries c k spawned ended) (hd : d ≠ c) :
    (n.countDown d).2.Carries c k (spawned ++ spawnedBy c n (n.countDown d).2)
      (ended ++ endedBy c n (n.countDown d).2) := by
  unfold Node.countDown
  split
  · refine h.same ?_ (listeners_stopListener_of_ne (Ne.symm hd) _) ?_ ?_
    · rw [counts_stopListener]
      simp [Ne.symm hd]
    · unfold stopListener
      split <;> exact le_refl _
    · unfold stopListener
      split <;> simp [hd]
  · exact h.same (by simp [Ne.symm hd]) rfl (le_refl _) (by simp)

end Node

section Listener

open Managed

variable {env : Env} {c d : Channel} {k : Nat} {spawned ended : List Nat} {g : Gateway}

/-- What a listener task is, whatever it is waiting for. -/
def Listener.ident (l : Listener) : Nat × Bool × Bool × Bool :=
  (l.task, l.stopped, l.cancelled, decide (l.phase = .done))

/-- A resumption of a listener task leaves the manager's tables alone, and every listener the task
it is. -/
theorem listenerStep_tables (env : Env) (d : Channel) (a : ListenerAct) (g : Gateway) :
    (listenerStep env d a g).redis.faults = g.redis.faults ∧
      (listenerStep env d a g).node.localSubscriberCounts = g.node.localSubscriberCounts ∧
      (listenerStep env d a g).node.nextTask = g.node.nextTask ∧
      (listenerStep env d a g).node.retired = g.node.retired ∧
      ∀ c, ((listenerStep env d a g).node.listeners.get? c).map Listener.ident =
        (g.node.listeners.get? c).map Listener.ident := by
  rcases listenerStep_cases env d a g with heq | ⟨l, hl, hstop, hcancel, hcase⟩
  · rw [heq]
    exact ⟨rfl, rfl, rfl, rfl, fun _ => rfl⟩
  have hphase : ∀ phase, l.phase ≠ .done → phase ≠ .done → ∀ r c,
      ((setPhase d l phase ⟨r, g.node⟩).node.listeners.get? c).map Listener.ident =
        (g.node.listeners.get? c).map Listener.ident := by
    intro phase hold hnew r c
    by_cases hd : c = d
    · subst hd
      simp [setPhase, setNode, hl, Listener.ident, hold, hnew]
    · simp [setPhase, setNode, hd]
  rcases hcase with ⟨-, hp, heq⟩ | ⟨-, -, m, rest, -, heq⟩ | ⟨-, hp, heq⟩ | ⟨-, hp, heq⟩ |
    ⟨-, hp, heq⟩
  · rw [heq]
    exact ⟨rfl, rfl, rfl, rfl, hphase _ (by simp [hp]) (by simp) _⟩
  · have ho := Node.outbound_deliverLocal env d m g.node
    rw [heq]
    exact ⟨rfl, ho.counts, ho.nextTask, ho.retired,
      fun c => congrArg (fun ls => (Dict.get? ls c).map Listener.ident) ho.listeners⟩
  · rw [heq]
    exact ⟨rfl, rfl, rfl, rfl, hphase _ (by simp [hp]) (by simp) _⟩
  · rw [heq]
    exact ⟨rfl, rfl, rfl, rfl, hphase _ (by simp [hp]) (by simp) _⟩
  · rw [heq]
    exact ⟨rfl, rfl, rfl, rfl, hphase _ (by simp [hp]) (by simp) _⟩

theorem carries_listenerStep (h : g.node.Carries c k spawned ended) (a : ListenerAct) :
    (listenerStep env d a g).node.Carries c k
      (spawned ++ spawnedBy c g.node (listenerStep env d a g).node)
      (ended ++ endedBy c g.node (listenerStep env d a g).node) := by
  obtain ⟨-, hcounts, hnext, hretired, hident⟩ := listenerStep_tables env d a g
  refine h.keep (by rw [hcounts]; exact h.count) h.needed ?_ (fun l' hl' => ?_)
    (le_of_eq hnext.symm) (by simp [hretired])
  · have htask := congrArg (Option.map Prod.fst) (hident c)
    rw [Option.map_map, Option.map_map] at htask
    exact htask
  · have hmem : l'.ident ∈ (g.node.listeners.get? c).map Listener.ident := by
      rw [← hident c]
      exact Option.mem_map_of_mem _ hl'
    obtain ⟨l, hl, heq⟩ := Option.mem_map.mp hmem
    obtain ⟨hstop, hcancel, hphase⟩ := h.live l hl
    simp only [Listener.ident, Prod.mk.injEq] at heq
    refine ⟨heq.2.1 ▸ hstop, heq.2.2.1 ▸ hcancel, fun hdone => hphase ?_⟩
    simpa [hdone] using heq.2.2.2

theorem carries_reap (h : g.node.Carries c k spawned ended) :
    (Gateway.reap env g).node.Carries c k
      (spawned ++ spawnedBy c g.node (Gateway.reap env g).node)
      (ended ++ endedBy c g.node (Gateway.reap env g).node) := by
  unfold Gateway.reap
  split
  · exact h.refl
  · rename_i e l rest hret
    refine h.same rfl rfl (le_refl _) (fun e' he' => ?_)
    -- a retired task only leaves the list
    have hnil : rest.drop g.node.retired.length = [] := by
      rw [hret]
      exact List.drop_eq_nil_of_le (Nat.le_succ _)
    rw [show (dropSubscriber env l.task (setNode { g.node with retired := rest } g)).node.retired
      = rest from rfl, hnil] at he'
    nomatch he'

end Listener

/-! ## 4. One step, and every run -/

namespace Managed

variable {env : Env} {c : Channel} {w : Managed}

/-- The number of the manager is that of the subscribers that have begun and not left. -/
structure Manages (c : Channel) (w : Managed) : Prop where
  up : w.tasks.state.redis.faults = []
  carries : w.tasks.state.node.Carries c
    (w.tasks.stages.countP (CallStage.entered c) - (left c w.tasks.stages).length) w.spawned w.ended
  matched : ∀ d, (left d w.tasks.stages).Subperm (completed d w.tasks.stages)
  stored : (left c w.tasks.stages).length < (completed c w.tasks.stages).length →
    (w.tasks.state.node.listeners.get? c).isSome

/-- A completed subscribe has begun. -/
theorem length_completed_le (c : Channel) (stages : List CallStage) :
    (completed c stages).length ≤ stages.countP (CallStage.entered c) := by
  have hlen : (completed c stages).length =
      stages.countP (fun st => (CallStage.completedBy c st).isSome) := by
    rw [completed, List.length_filterMap_eq_countP]
  rw [hlen]
  refine List.countP_mono_left (fun st _ h => ?_)
  cases st with
  | subscribed p d =>
    simp only [CallStage.completedBy] at h
    split at h
    · rename_i hd
      simp [CallStage.entered, hd]
    · nomatch h
  | _ => nomatch h

/-- When no call is in progress, every subscribe that has begun has completed. -/
theorem countP_entered_of_quiet {stages : List CallStage}
    (h : ∀ st ∈ stages, st.inProgress = false) :
    stages.countP (CallStage.entered c) = (completed c stages).length := by
  rw [completed, List.length_filterMap_eq_countP]
  refine List.countP_congr (fun st hst => ?_)
  have := h st hst
  cases st with
  | subscribed p d => by_cases hd : d = c <;> simp [CallStage.entered, CallStage.completedBy, hd]
  | counted p d => nomatch this
  | added p d => nomatch this
  | starting p d => nomatch this
  | leaving p d => nomatch this
  | _ => exact Iff.rfl

section Around

variable {before after : List CallStage} {st st' : CallStage} {d : Channel}

theorem left_around (d : Channel) (before : List CallStage) (st : CallStage)
    (after : List CallStage) : left d (before ++ st :: after) =
      left d before ++ ((CallStage.leftBy d st).toList ++ left d after) := by
  simp only [left, List.filterMap_append, List.filterMap_cons]
  cases CallStage.leftBy d st <;> rfl

theorem completed_around (d : Channel) (before : List CallStage) (st : CallStage)
    (after : List CallStage) : completed d (before ++ st :: after) =
      completed d before ++ ((CallStage.completedBy d st).toList ++ completed d after) := by
  simp only [completed, List.filterMap_append, List.filterMap_cons]
  cases CallStage.completedBy d st <;> rfl

/-- A call that goes on without entering, completing or leaving. -/
theorem Manages.goesOn {g g' : Gateway} {spawned ended spawned' ended' : List Nat}
    (h : Manages c ⟨⟨g, before ++ st :: after⟩, spawned, ended⟩)
    (hleft : ∀ d, CallStage.leftBy d st' = CallStage.leftBy d st)
    (hcompleted : ∀ d, CallStage.completedBy d st' = CallStage.completedBy d st)
    (hentered : CallStage.entered c st' = CallStage.entered c st) (hup : g'.redis.faults = [])
    (hnode : g'.node = g.node)
    (hspawned : spawned' = spawned ++ spawnedBy c g.node g'.node)
    (hended : ended' = ended ++ endedBy c g.node g'.node) :
    Manages c ⟨⟨g', before ++ st' :: after⟩, spawned', ended'⟩ := by
  have hl : ∀ d, left d (before ++ st' :: after) = left d (before ++ st :: after) := by
    intro d
    rw [left_around, left_around, hleft]
  have hc : ∀ d, completed d (before ++ st' :: after) = completed d (before ++ st :: after) := by
    intro d
    rw [completed_around, completed_around, hcompleted]
  have he : (before ++ st' :: after).countP (CallStage.entered c) =
      (before ++ st :: after).countP (CallStage.entered c) := by
    rw [countP_around, countP_around, hentered]
  subst hspawned hended
  refine ⟨hup, ?_, fun d => ?_, ?_⟩
  · simp only [hl, he, hnode]
    exact h.carries.refl
  · simp only [hl, hc]
    exact h.matched d
  · simp only [hl, hc, hnode]
    exact h.stored

/-- A command of a call, which the store carries out. -/
theorem onStore_up {f : Redis → Except Exn Unit × Redis} (onOk : CallStage) {g : Gateway}
    (hup : g.redis.faults = []) (hf : ∀ r, (f r).1 = .ok () ∧ (f r).2.faults = r.faults) :
    ∃ r, CallStage.onStore f onOk g = (⟨r, g.node⟩, onOk) ∧ r.faults = [] := by
  refine ⟨(f g.redis).2, ?_, (hf g.redis).2.trans hup⟩
  simp only [CallStage.onStore, settle, attempt_up _ hup, (hf g.redis).1]
  rfl

variable {g : Gateway} {spawned ended : List Nat} {p : ConnId}

/-- A subscribe begins. -/
theorem Manages.enters (h : Manages c ⟨⟨g, before ++ .subscribe p d :: after⟩, spawned, ended⟩) :
    Manages c ⟨⟨setNode (g.node.countUp d) g, before ++ .counted p d :: after⟩,
      spawned ++ spawnedBy c g.node (g.node.countUp d),
      ended ++ endedBy c g.node (g.node.countUp d)⟩ := by
  have hl : ∀ e, left e (before ++ .counted p d :: after) =
      left e (before ++ .subscribe p d :: after) := by
    intro e
    rw [left_around, left_around]
    rfl
  have hc : ∀ e, completed e (before ++ .counted p d :: after) =
      completed e (before ++ .subscribe p d :: after) := by
    intro e
    rw [completed_around, completed_around]
    rfl
  have he : (before ++ .counted p d :: after).countP (CallStage.entered c) =
      (before ++ .subscribe p d :: after).countP (CallStage.entered c) +
        if d = c then 1 else 0 := by
    rw [countP_around, countP_around]
    by_cases hd : d = c <;> simp [CallStage.entered, hd]
  have hle := (h.matched c).length_le.trans (length_completed_le c _)
  refine ⟨h.up, ?_, fun e => ?_, ?_⟩
  · simp only [hl, he]
    rw [Nat.sub_add_comm hle]
    exact h.carries.countUp d
  · simp only [hl, hc]
    exact h.matched e
  · simp only [hl, hc]
    exact h.stored

/-- A subscribe completes: its look at the listener comes while the number is positive, since the
call itself has not left. -/
theorem Manages.completes (h : Manages c ⟨⟨g, before ++ .starting p d :: after⟩, spawned, ended⟩) :
    Manages c ⟨⟨setNode (g.node.startListener d) g, before ++ .subscribed p d :: after⟩,
      spawned ++ spawnedBy c g.node (g.node.startListener d),
      ended ++ endedBy c g.node (g.node.startListener d)⟩ := by
  have hl : ∀ e, left e (before ++ .subscribed p d :: after) =
      left e (before ++ .starting p d :: after) := by
    intro e
    rw [left_around, left_around]
    rfl
  have he : (before ++ .subscribed p d :: after).countP (CallStage.entered c) =
      (before ++ .starting p d :: after).countP (CallStage.entered c) := by
    rw [countP_around, countP_around]
    rfl
  have hsub : ∀ e, (completed e (before ++ .starting p d :: after)).Sublist
      (completed e (before ++ .subscribed p d :: after)) := by
    intro e
    rw [completed_around, completed_around]
    exact List.Sublist.append_left (List.sublist_append_right _ _) _
  have hlist : ∀ e, d ≠ e → completed e (before ++ .subscribed p d :: after) =
      completed e (before ++ .starting p d :: after) := by
    intro e hne
    simp [completed_around, CallStage.completedBy, hne]
  have hmatched : ∀ e, (left e (before ++ .subscribed p d :: after)).Subperm
      (completed e (before ++ .subscribed p d :: after)) := by
    intro e
    rw [hl]
    exact (h.matched e).trans (hsub e).subperm
  by_cases hd : d = c
  · subst hd
    have hpos : (left d (before ++ .starting p d :: after)).length <
        (before ++ .starting p d :: after).countP (CallStage.entered d) := by
      have h1 := (h.matched d).length_le
      have h2 := length_completed_le d (before ++ .subscribed p d :: after)
      have h3 : (completed d (before ++ .subscribed p d :: after)).length =
          (completed d (before ++ .starting p d :: after)).length + 1 := by
        simp [completed_around, CallStage.completedBy]
        omega
      rw [he] at h2
      simp only at h1
      omega
    obtain ⟨hcarries, hsome⟩ := h.carries.startListener (by simp only; omega)
    refine ⟨h.up, ?_, hmatched, fun _ => hsome⟩
    simp only [hl, he]
    exact hcarries
  · refine ⟨h.up, ?_, hmatched, ?_⟩
    · simp only [hl, he]
      exact h.carries.startListener_of_ne hd
    · simp only [hl, hlist c hd, setNode, Node.listeners_startListener_of_ne (Ne.symm hd)]
      exact h.stored

/-- An unsubscribe begins, after a subscribe of its caller that nothing has matched. -/
theorem Manages.leaves (h : Manages c ⟨⟨g, before ++ .unsubscribe p d :: after⟩, spawned, ended⟩)
    (hm : (left d (before ++ .unsubscribe p d :: after)).count p <
      (completed d (before ++ .unsubscribe p d :: after)).count p)
    (hst' : st' = .leaving p d ∨ st' = .unsubscribed p d) :
    Manages c ⟨⟨setNode (g.node.countDown d).2 g, before ++ st' :: after⟩,
      spawned ++ spawnedBy c g.node (g.node.countDown d).2,
      ended ++ endedBy c g.node (g.node.countDown d).2⟩ := by
  have hleft : ∀ e, CallStage.leftBy e st' = if d = e then some p else none := by
    rcases hst' with rfl | rfl <;> exact fun _ => rfl
  have hcompleted : ∀ e, CallStage.completedBy e st' = none := by
    rcases hst' with rfl | rfl <;> exact fun _ => rfl
  have hentered : CallStage.entered c st' = false := by
    rcases hst' with rfl | rfl <;> rfl
  have hc : ∀ e, completed e (before ++ st' :: after) =
      completed e (before ++ .unsubscribe p d :: after) := by
    intro e
    rw [completed_around, completed_around, hcompleted]
    rfl
  have he : (before ++ st' :: after).countP (CallStage.entered c) =
      (before ++ .unsubscribe p d :: after).countP (CallStage.entered c) := by
    rw [countP_around, countP_around, hentered]
    rfl
  have hl : ∀ e, (left e (before ++ st' :: after)).Perm
      ((if d = e then [p] else []) ++ left e (before ++ .unsubscribe p d :: after)) := by
    intro e
    rw [left_around, left_around, hleft]
    by_cases hd : d = e
    · simp only [hd, if_true, Option.toList_some, CallStage.leftBy, Option.toList_none,
        List.nil_append, List.singleton_append]
      exact List.perm_middle
    · simp [hd, CallStage.leftBy]
  have hmatched : ∀ e, (left e (before ++ st' :: after)).Subperm
      (completed e (before ++ st' :: after)) := by
    intro e
    rw [hc]
    refine (hl e).subperm.trans ?_
    split
    · rename_i hd
      subst hd
      -- counting callers: the caller has a subscribe to spare, the others are as before
      refine List.subperm_ext_iff.mpr (fun q hq => ?_)
      have hold := (List.subperm_iff_count.mp (h.matched d)) q
      simp only [List.singleton_append, List.count_cons, beq_iff_eq] at *
      split
      · rename_i hqp
        subst hqp
        omega
      · omega
    · exact h.matched e
  by_cases hd : d = c
  · subst hd
    have hlength : (left d (before ++ st' :: after)).length =
        (left d (before ++ .unsubscribe p d :: after)).length + 1 := by
      rw [(hl d).length_eq]
      simp only [if_true, List.singleton_append, List.length_cons]
    have hle := (hmatched d).length_le.trans (length_completed_le d _)
    rw [hlength, he] at hle
    obtain ⟨hcarries, hkeep⟩ := h.carries.countDown (by simp only; omega)
    refine ⟨h.up, ?_, hmatched, fun hlt => ?_⟩
    · simp only [hlength, he]
      rw [Nat.sub_add_eq]
      exact hcarries
    · -- somebody has completed and not left, so this was not the last one
      simp only [hlength, hc] at hlt
      have hentered := length_completed_le d (before ++ .unsubscribe p d :: after)
      simp only [setNode, hkeep (by simp only; omega)]
      exact h.stored (by simp only; omega)
  · have hlength : left c (before ++ st' :: after) =
        left c (before ++ .unsubscribe p d :: after) := by
      rw [left_around, left_around, hleft, if_neg hd]
      rfl
    refine ⟨h.up, ?_, hmatched, ?_⟩
    · simp only [hlength, he]
      exact h.carries.countDown_of_ne hd
    · simp only [hlength, hc, setNode, Node.listeners_countDown_of_ne (Ne.symm hd)]
      exact h.stored

end Around

/-- A step of a call. -/
theorem Manages.call (h : Manages c w) (i : Nat) (hm : w.Matched (.call i)) :
    Manages c (w.step env c (.call i)) := by
  obtain ⟨⟨g, stages⟩, spawned, ended⟩ := w
  rcases Tasks.step_cases (CallStage.next env) ⟨g, stages⟩ i with
    ⟨_, heq⟩ | ⟨before, st, after, hst, hget, heq⟩
  · simp only [step, move, heq]
    exact ⟨h.up, h.carries.refl, h.matched, h.stored⟩
  simp only at hst
  subst hst
  simp only [step, move, heq]
  cases st with
  | subscribe p d => exact h.enters
  | counted p d =>
    obtain ⟨r, hnext, hup⟩ := onStore_up (.added p d) h.up
      (f := roomAdd d env.settings.nodeId) (fun _ => ⟨rfl, rfl⟩)
    simp only [CallStage.next, hnext]
    exact h.goesOn (fun _ => rfl) (fun _ => rfl) rfl hup rfl rfl rfl
  | added p d =>
    obtain ⟨r, hnext, hup⟩ := onStore_up (.starting p d) h.up
      (f := roomExpire d (env.settings.nodeTtlSeconds * 3)) (fun _ => ⟨rfl, rfl⟩)
    simp only [CallStage.next, hnext]
    exact h.goesOn (fun _ => rfl) (fun _ => rfl) rfl hup rfl rfl rfl
  | starting p d => exact h.completes
  | unsubscribe p d =>
    refine h.leaves (hm _ hget) ?_
    simp only [CallStage.next]
    split
    · exact Or.inl rfl
    · exact Or.inr rfl
  | leaving p d =>
    obtain ⟨r, hnext, hup⟩ := onStore_up (.unsubscribed p d) h.up
      (f := roomRemove d env.settings.nodeId) (fun _ => ⟨rfl, rfl⟩)
    simp only [CallStage.next, hnext]
    exact h.goesOn (fun _ => rfl) (fun _ => rfl) rfl hup rfl rfl rfl
  | subscribed p d => exact h.goesOn (fun _ => rfl) (fun _ => rfl) rfl h.up rfl rfl rfl
  | unsubscribed p d => exact h.goesOn (fun _ => rfl) (fun _ => rfl) rfl h.up rfl rfl rfl
  | failed e => exact h.goesOn (fun _ => rfl) (fun _ => rfl) rfl h.up rfl rfl rfl

/-- **One step.** -/
theorem manages_step (h : Manages c w) (a : ManagerAct) (hm : w.Matched a) :
    Manages c (w.step env c a) := by
  cases a with
  | call i => exact h.call i hm
  | listener d a =>
    obtain ⟨hfaults, -, -, -, hident⟩ := listenerStep_tables env d a w.tasks.state
    refine ⟨hfaults.trans h.up, carries_listenerStep h.carries a, h.matched, fun hlt => ?_⟩
    have hsome := congrArg Option.isSome (hident c)
    simp only [Option.isSome_map] at hsome
    exact hsome.trans (h.stored hlt)
  | reap =>
    refine ⟨?_, carries_reap h.carries, h.matched, fun hlt => ?_⟩
    · simp only [step, move, Gateway.reap]
      split <;> exact h.up
    · simp only [step, move, Gateway.reap]
      split <;> exact h.stored hlt

/-- Before anybody has called. -/
theorem manages_start {g : Gateway} (hup : g.redis.faults = [])
    (hcount : g.node.localSubscriberCounts.get? c = none)
    (hlisten : g.node.listeners.get? c = none) {calls : List CallStage}
    (hcalls : ∀ st ∈ calls, st.fresh = true) : Manages c ⟨⟨g, calls⟩, [], []⟩ := by
  have hleft : ∀ d, left d calls = [] := by
    intro d
    refine List.filterMap_eq_nil_iff.mpr (fun st hst => ?_)
    have := hcalls st hst
    cases st <;> first | rfl | nomatch this
  have hentered : calls.countP (CallStage.entered c) = 0 := by
    refine List.countP_eq_zero.mpr (fun st hst => ?_)
    have := hcalls st hst
    cases st <;> first | exact Bool.false_ne_true | nomatch this
  refine ⟨hup, ?_, fun d => ?_, fun hlt => ?_⟩
  · simp only [hentered, hleft, List.length_nil]
    exact ⟨by simpa using hcount, by simp [hlisten], by simp [hlisten], by simp [hlisten], by simp,
      List.nodup_nil⟩
  · simp only [hleft]
    exact List.nil_subperm
  · have hle := length_completed_le c calls
    simp only at hlt
    omega

/-! ## 5. One listener -/

/-- **The subscription manager is right under every interleaving.**  Any number of callers call
`on_local_subscribe` and `on_local_unsubscribe` on any channels, each unsubscribe after a subscribe
of its caller that nothing has matched, their steps interleaved in any way with each other and with
those of the listener tasks.  Of the listener tasks ever started for a channel, the ones that have
not been cancelled are the one the manager holds, which is alive, or none.  When no call is in
progress, the channel's number is that of the completed subscribes minus the unsubscribes, with no
entry at zero, and a listener is held exactly if it is positive. -/
theorem one_listener_per_channel (env : Env) (c : Channel) (g : Gateway)
    (hup : g.redis.faults = []) (hcount : g.node.localSubscriberCounts.get? c = none)
    (hlisten : g.node.listeners.get? c = none) (calls : List CallStage)
    (hcalls : ∀ st ∈ calls, st.fresh = true) (acts : List ManagerAct)
    (hmatched : Along (step env c) Matched ⟨⟨g, calls⟩, [], []⟩ acts) :
    let w := runAll (step env c) ⟨⟨g, calls⟩, [], []⟩ acts
    let node := w.tasks.state.node
    let subscribers := (completed c w.tasks.stages).length - (left c w.tasks.stages).length
    w.spawned.filter (fun t => decide (t ∉ w.ended)) =
        (node.listeners.get? c).toList.map Listener.task ∧
      (∀ l ∈ node.listeners.get? c, l.Live) ∧
      ((∀ st ∈ w.tasks.stages, st.inProgress = false) →
        node.localSubscriberCounts.get? c =
            (if subscribers = 0 then none else some (subscribers : Int)) ∧
          ((node.listeners.get? c).isSome ↔ 0 < subscribers)) := by
  intro w node subscribers
  have h : Manages c w := @runAll_invariant _ _ (step env c) _ (Manages c)
    (fun _ a h hm => manages_step h a hm) acts _ (manages_start hup hcount hlisten hcalls) hmatched
  refine ⟨?_, h.carries.live, fun hquiet => ?_⟩
  · -- the tasks have distinct numbers, so the held one is not among those that ended
    have hnd := h.carries.nodup
    rw [h.carries.tasks] at hnd ⊢
    rw [List.filter_append]
    have hended : w.ended.filter (fun t => decide (t ∉ w.ended)) = [] := by
      refine List.filter_eq_nil_iff.mpr (fun t ht => ?_)
      simp [ht]
    rw [hended, List.nil_append, List.filter_eq_self]
    intro t ht
    have hdisj := (List.nodup_append.mp hnd).2.2
    exact decide_eq_true (fun hmem => hdisj t hmem t ht rfl)
  · have hcarries := h.carries
    rw [countP_entered_of_quiet hquiet] at hcarries
    refine ⟨hcarries.count, hcarries.needed, fun hpos => h.stored ?_⟩
    omega

/-- Two subscribers whose calls overlap, the first of which leaves. -/
def overlapping : Managed :=
  ⟨⟨⟨{}, {}⟩, [.subscribe "x" "c", .subscribe "y" "c", .unsubscribe "x" "c"]⟩, [], []⟩

/-- They have one listener between them, and when the first one has left the number is 1. -/
theorem overlapping_subscribers_share :
    let w := runAll (step (.plain {}) "c") overlapping [.call 0, .call 1, .call 0, .call 1, .call 0,
      .call 0, .call 1, .listener "c" .attach, .call 2, .call 1]
    (w.tasks.state.node.listeners.get? "c").toList.map Listener.task =
        w.spawned.filter (fun t => decide (t ∉ w.ended)) ∧
      w.spawned = [0] ∧ w.ended = [] ∧
      w.tasks.state.node.localSubscriberCounts.get? "c" = some 1 := by
  have h := one_listener_per_channel (.plain {}) "c" ⟨{}, {}⟩ rfl rfl rfl
    [.subscribe "x" "c", .subscribe "y" "c", .unsubscribe "x" "c"] (by decide)
    [.call 0, .call 1, .call 0, .call 1, .call 0, .call 0, .call 1, .listener "c" .attach, .call 2,
      .call 1] (by decide +kernel)
  exact ⟨h.1.symm, by decide +kernel, by decide +kernel, (h.2.2 (by decide +kernel)).1⟩

end Managed

end Relay
