/-
# The sender between the segments of a handler

While a frame is handled the loop awaits, and at an await the other tasks run.  The sender of the
connection is one of them: it takes frames off the queue and writes them until it finds the queue
empty or the window full.  `senderTurn` is such a turn on a socket that takes what is written, and
`Prog.runWith (senderTurn env x)` a handler with a turn of the sender at each of its awaits.

* `senderStep_drained`: after its turn the sender cannot move;
* `settled_iff`: the states in which a turn does nothing.
-/
import Mathlib
import Relay.Sender
import Relay.Handler

namespace Relay

/-! ## 1. The sender runs as far as it can -/

namespace Connection

/-- A bound on what the sender has to do: two steps for an item of the queue, fewer for the one it
holds. -/
def work (c : Connection) : Nat :=
  2 * c.queue.length + match c.sender with
    | .sending _ => 1
    | .waiting _ => if c.windowEvent then 2 else 0
    | _ => 0

/-- The sender runs until it is blocked. -/
def drained (env : Env) (c : Connection) : Connection := senderRun env c.work c

/-- All that the sender looks at. -/
def flow (c : Connection) : Connection :=
  { c with
    connectionId := "", sessionId := "", tenantId := "", lastPongAt := 0
    subscriptions := OSet.empty, userId := none, messagesDropped := 0, wire := [], accepted := [] }

section Drained

variable {env : Env} {c c' : Connection}

theorem work_release_lt (c : Connection) (item : QueuedMessage) :
    (c.release item).work ≤ 2 * c.queue.length + 1 := by
  unfold release work
  split <;> simp

/-- What is left after the window test. -/
theorem work_waitForWindow (env : Env) (c : Connection) (item : QueuedMessage) :
    (c.waitForWindow env item).work ≤ 2 * c.queue.length + 1 := by
  rcases waitForWindow_cases env c item with ⟨-, h⟩ | ⟨-, h⟩
  · rw [h]
    simp [work]
  · rw [h]
    exact work_release_lt c item

/-- Every step of the sender is one less to do. -/
theorem work_senderStep (h : c.senderStep env = some c') : c'.work < c.work := by
  rcases senderStep_cases h with
    ⟨item, rest, hs, hq, ⟨-, rfl⟩ | ⟨-, rfl⟩⟩ | ⟨item, hs, he, rfl⟩ | ⟨item, hs, rfl⟩
  · have hle := work_waitForWindow env
      { c with queue := rest, queueBytes := c.queueBytes - item.sizeBytes } item
    simp only [work, hs, hq, List.length_cons] at hle ⊢
    omega
  · simp only [work, hs, hq, List.length_cons]
    omega
  · have hle := work_waitForWindow env c item
    simp only [work, hs, he, if_true] at hle ⊢
    omega
  · simp only [senderLoop]
    split <;> simp [work, hs]

theorem senderStep_senderRun : ∀ (n : Nat) {c : Connection}, c.work ≤ n →
    (senderRun env n c).senderStep env = none
  | 0, c, hn => by
    cases h : c.senderStep env with
    | none => exact h
    | some c' => exact absurd (work_senderStep h) (by omega)
  | n + 1, c, hn => by
    unfold senderRun
    split
    · rename_i c' h
      have := work_senderStep h
      exact senderStep_senderRun n (by omega)
    · rename_i h
      exact h

/-- **After its turn the sender is blocked.** -/
theorem senderStep_drained (env : Env) (c : Connection) :
    (c.drained env).senderStep env = none := senderStep_senderRun _ (Nat.le_refl _)

/-- More than that much fuel makes no difference. -/
theorem senderRun_of_work_le : ∀ (n : Nat) {c : Connection}, c.work ≤ n →
    ∀ m, n ≤ m → senderRun env m c = senderRun env n c
  | 0, c, hn, m, _ => by
    have hnone : c.senderStep env = none := senderStep_senderRun 0 hn
    rw [senderRun_blocked hnone, senderRun_blocked hnone]
  | n + 1, c, hn, m, hm => by
    obtain ⟨m, rfl⟩ : ∃ k, m = k + 1 := ⟨m - 1, by omega⟩
    unfold senderRun
    split
    · rename_i c' h
      have := work_senderStep h
      exact senderRun_of_work_le n (by omega) m (by omega)
    · rfl

/-- A turn begins with a step. -/
theorem drained_step (h : c.senderStep env = some c') : c.drained env = c'.drained env := by
  have hlt := work_senderStep h
  obtain ⟨k, hk⟩ : ∃ k, c.work = k + 1 := ⟨c.work - 1, by omega⟩
  rw [drained, hk, senderRun, h]
  exact senderRun_of_work_le _ (Nat.le_refl _) k (by omega)

theorem drained_of_blocked (h : c.senderStep env = none) : c.drained env = c :=
  senderRun_blocked h _

@[simp] theorem drained_drained (env : Env) (c : Connection) :
    (c.drained env).drained env = c.drained env := drained_of_blocked (senderStep_drained env c)

/-- A step of the sender depends on the flow only. -/
theorem flow_senderStep (env : Env) (c : Connection) :
    (c.senderStep env).map flow = (c.flow.senderStep env).map flow := by
  have hrelease : ∀ (c : Connection) (item : QueuedMessage),
      (c.release item).flow = (c.flow.release item).flow := by
    intro c item
    show (if c.open_ then _ else _ : Connection).flow = (if c.open_ then _ else _ : Connection).flow
    split <;> rfl
  have hwait : ∀ (c : Connection) (item : QueuedMessage),
      (c.waitForWindow env item).flow = (c.flow.waitForWindow env item).flow := by
    intro c item
    unfold waitForWindow
    show (if env.settings.maxInflightMessages ≤ c.inflight.length then _ else _ : Connection).flow
      = (if env.settings.maxInflightMessages ≤ c.inflight.length then _ else _ : Connection).flow
    split
    · rfl
    · exact hrelease c item
  unfold senderStep
  simp only [show c.flow.sender = c.sender from rfl, show c.flow.queue = c.queue from rfl,
    show c.flow.windowEvent = c.windowEvent from rfl]
  cases c.sender with
  | getting =>
    cases c.queue with
    | nil => rfl
    | cons item rest =>
      simp only
      split
      · exact congrArg some (hwait _ item)
      · rfl
  | waiting item =>
    simp only
    split
    · exact congrArg some (hwait c item)
    · rfl
  | sending item =>
    show some (if c.open_ then _ else _ : Connection).flow
      = some (if c.open_ then _ else _ : Connection).flow
    split <;> rfl
  | exited => rfl

theorem senderStep_eq_none_congr (h : c.flow = c'.flow) :
    c.senderStep env = none ↔ c'.senderStep env = none := by
  rw [← Option.map_eq_none_iff (f := flow), flow_senderStep, h, ← flow_senderStep,
    Option.map_eq_none_iff]

theorem flow_senderRun : ∀ (n : Nat) {c c' : Connection}, c.flow = c'.flow →
    (senderRun env n c).flow = (senderRun env n c').flow
  | 0, _, _, h => h
  | n + 1, c, c', h => by
    have hstep : (c.senderStep env).map flow = (c'.senderStep env).map flow := by
      rw [flow_senderStep, h, ← flow_senderStep]
    unfold senderRun
    cases hc : c.senderStep env with
    | none =>
      rw [(senderStep_eq_none_congr h).mp hc]
      exact h
    | some d =>
      cases hc' : c'.senderStep env with
      | none => rw [hc, hc'] at hstep; cases hstep
      | some d' =>
        rw [hc, hc'] at hstep
        exact flow_senderRun n (Option.some.inj hstep)

theorem flow_drained (env : Env) (h : c.flow = c'.flow) :
    (c.drained env).flow = (c'.drained env).flow := by
  have hwork : c.work = c'.work := by
    have := congrArg work h
    exact this
  rw [drained, drained, hwork]
  exact flow_senderRun _ h

theorem state_senderRun (env : Env) : ∀ (n : Nat) (c : Connection),
    (senderRun env n c).state = c.state
  | 0, _ => rfl
  | n + 1, c => by
    unfold senderRun
    split
    · rename_i c' h
      have hstate := state_senderStep env c
      rw [h, Option.getD_some] at hstate
      exact (state_senderRun env n c').trans hstate
    · rfl

end Drained

end Connection

/-! ## 2. A turn of the sender of a connection -/

open Gateway

/-- The sender of the connection runs until it is blocked. -/
def senderTurn (env : Env) (x : ConnId) (g : Gateway) : Gateway :=
  setNode (g.node.updateConn x (Connection.drained env)) g

section Turn

variable {env : Env} {x : ConnId} {g g' : Gateway} {conn : Connection}

theorem get_senderTurn (env : Env) (x : ConnId) (g : Gateway) :
    (senderTurn env x g).node.registry.byId.get? x
      = (g.node.registry.byId.get? x).map (Connection.drained env) := by
  simp only [senderTurn, setNode, Node.updateConn, Registry.get_updateConn, if_true]

/-- **When a turn does nothing.** -/
theorem settled_iff : senderTurn env x g = g ↔
    ∀ conn, g.node.registry.byId.get? x = some conn → conn.senderStep env = none := by
  constructor
  · intro h conn hconn
    have hget := get_senderTurn env x g
    rw [h, hconn, Option.map_some] at hget
    rw [Option.some.inj hget]
    exact Connection.senderStep_drained env conn
  · intro h
    have hself : g.node.registry.byId.modify x (Connection.drained env) = g.node.registry.byId :=
      Dict.modify_self (fun conn hconn => Connection.drained_of_blocked (h conn hconn))
    simp only [senderTurn, setNode, Node.updateConn, Registry.updateConn, hself]

theorem senderTurn_senderTurn (env : Env) (x : ConnId) (g : Gateway) :
    senderTurn env x (senderTurn env x g) = senderTurn env x g := by
  refine settled_iff.mpr (fun conn hconn => ?_)
  rw [get_senderTurn] at hconn
  obtain ⟨old, -, rfl⟩ := Option.map_eq_some_iff.mp hconn
  exact Connection.senderStep_drained env old

/-- Of the connection its flow counts. -/
theorem settled_congr (h : senderTurn env x g = g)
    (hflow : (g'.node.registry.byId.get? x).map Connection.flow
      = (g.node.registry.byId.get? x).map Connection.flow) : senderTurn env x g' = g' := by
  refine settled_iff.mpr (fun conn' hconn' => ?_)
  rw [hconn'] at hflow
  obtain ⟨conn, hconn, hsame⟩ := Option.map_eq_some_iff.mp hflow.symm
  exact (Connection.senderStep_eq_none_congr hsame).mp (settled_iff.mp h conn hconn)

end Turn

end Relay
