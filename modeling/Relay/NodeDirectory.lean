/-
# The directory of nodes

`apps/gateway/nodes/registration.py` and the part of `lifespan` (`apps/gateway/main.py`) that drives
it.  A gateway process writes a record with a TTL under its own key when it starts, again every few
seconds from a task of its own, and once more when it begins to drain; when it stops it cancels the
task and deletes the key.  Nobody deregisters a process that dies.

The processes share nothing but the clock, so the model of a process is a `NodeView` -- the clock,
its key in Redis, its registrar -- and the directory is the views of all nodes.  `_write` reads the
status and the clock, and then awaits the SET: between the two another task of the process may run.
Redis executes a command some time after it was sent, and the TTL runs from then on.  The answer
comes later.  A command may fail and every failure is suppressed, but a failure says nothing about
what Redis has done: the client may have sent the command more than once, and a command that nobody
waits for any more -- it was given up, its task was cancelled, the process died -- may still be
executed (`left`).

* `crashed_node_vanishes`: once a node has ended and the last of its commands has been executed, it is
  not listed when more than `node_ttl_seconds` have passed;
* `running_node_listed`: a node that runs is listed all the time, as long as no more than `k` of its
  writes in a row fail and `k + 1` rounds of its loop fit in the TTL;
* `draining_stays_visible`: a node that has been written down as draining is not listed as active
  again, unless a write from before was still on its way when the draining began.
-/
import Mathlib
import Relay.Redis
import Relay.Lib.Run

namespace Relay

/-! ## 1. Data -/

/-- `_status`. -/
inductive NodeStatus
  | active | draining
  deriving DecidableEq, Repr

/-- The record of a node. -/
structure NodeInfo where
  nodeId : NodeId
  status : NodeStatus
  connections : Nat
  updatedAt : Nat
  deriving DecidableEq, Repr

/-- A command on the key of a node. -/
inductive NodeCommand
  | set (info : NodeInfo)
  | del
  deriving DecidableEq, Repr

/-- Where the task of `_loop` is. -/
inductive LoopStage
  | created (createdAt : Nat)
  /-- In the SET of `_write`, which Redis has executed or not. -/
  | writing (info : NodeInfo) (executed : Bool)
  | sleeping (due : Nat)

/-- Where `lifespan` is. -/
inductive MainStage
  /-- In `start`, in the SET of its `_write`. -/
  | starting (info : NodeInfo) (executed : Bool)
  /-- At the `yield`. -/
  | serving
  /-- In `mark_draining`, in the SET of its `_write`. -/
  | marking (info : NodeInfo) (executed : Bool)
  /-- In `_drain_connections` and `shutdown`. -/
  | draining
  /-- In `stop`, in the DEL. -/
  | deleting (executed : Bool)
  | stopped

/-- `NodeRegistrar` and the tasks that use it.  `written` and `failures` are bookkeeping of the
model: when Redis last executed a SET the process was waiting for, and how many writes have failed
since. -/
structure Registrar where
  status : NodeStatus := .active
  main : MainStage
  loop : Option LoopStage := none
  /-- `registry.active_count()`. -/
  connections : Nat := 0
  written : Option Nat := none
  failures : Nat := 0

/-- What there is of one node: the clock, the key in Redis, the commands that nobody waits for and
that Redis may still execute, and the process if it runs. -/
structure NodeView where
  now : Nat
  key : Option (Timed NodeInfo)
  left : List NodeCommand
  proc : Option Registrar

/-- Who waits for a command. -/
inductive Waiting
  | loop | main
  deriving DecidableEq

inductive NodeAct
  /-- The process starts. -/
  | boot
  /-- The `_loop` task is resumed; a SET it has been waiting for succeeded or not. -/
  | loop (ok : Bool)
  /-- The `lifespan` is resumed. -/
  | main (ok : Bool)
  /-- Redis executes a command that is waited for. -/
  | execute (who : Waiting)
  /-- Redis executes a command that nobody waits for. -/
  | executeLeft (i : Nat)
  /-- The Redis client sends a command again, with the first one under way. -/
  | resend (who : Waiting)
  /-- The server is told to stop. -/
  | shutdown
  /-- The process dies. -/
  | crash
  /-- The number of its connections changes. -/
  | connections (count : Nat)

/-! ## 2. `NodeRegistrar` -/

/-- The command a task waits for, if Redis has not executed it. -/
def LoopStage.pending : LoopStage → List NodeCommand
  | .writing info false => [.set info]
  | _ => []

def MainStage.pending : MainStage → List NodeCommand
  | .starting info false | .marking info false => [.set info]
  | .deleting false => [.del]
  | _ => []

/-- The command `lifespan` waits for. -/
def MainStage.sent : MainStage → List NodeCommand
  | .starting info _ | .marking info _ => [.set info]
  | .deleting _ => [.del]
  | _ => []

namespace Registrar

/-- The commands of a process that ends. -/
def pending (p : Registrar) : List NodeCommand :=
  (p.loop.map LoopStage.pending).getD [] ++ p.main.pending

/-- Bookkeeping of a SET that is executed. -/
def wrote (now : Nat) (p : Registrar) : Registrar := { p with written := some now, failures := 0 }

/-- Bookkeeping of an answer. -/
def noted (ok : Bool) (p : Registrar) : Registrar :=
  if ok then p else { p with failures := p.failures + 1 }

end Registrar

namespace NodeView

variable (env : Env) (interval : Nat) (n : NodeId)

/-- The record `_write` builds. -/
def record (v : NodeView) (p : Registrar) : NodeInfo := ⟨n, p.status, p.connections, v.now⟩

/-- Redis executes a command. -/
def execute (command : NodeCommand) (v : NodeView) : NodeView :=
  match command with
  | .set info => { v with key := Timed.lasting v.now env.settings.nodeTtlSeconds info }
  | .del => { v with key := none }

/-- `_loop`.  `contextlib.suppress(Exception)`: it goes on whatever the answer is. -/
def loopStep (ok : Bool) (p : Registrar) (v : NodeView) : NodeView :=
  match p.loop with
  | none => v
  | some (.created _) =>
    { v with proc := some { p with loop := some (.writing (record n v p) false) } }
  | some (.writing info executed) =>
    -- there is no answer before the command is executed
    if ok && !executed then v
    else { v with
      left := v.left ++ (LoopStage.writing info executed).pending
      proc := some { p.noted ok with loop := some (.sleeping (v.now + interval)) } }
  | some (.sleeping due) =>
    if due ≤ v.now then
      { v with proc := some { p with loop := some (.writing (record n v p) false) } }
    else v

/-- `lifespan` around its `yield`. -/
def mainStep (ok : Bool) (p : Registrar) (v : NodeView) : NodeView :=
  match p.main with
  | .starting info executed =>
    if ok && !executed then v
    else { v with
      left := v.left ++ (MainStage.starting info executed).pending
      proc := some { p.noted ok with main := .serving, loop := some (.created v.now) } }
  | .serving => v
  | .marking info executed =>
    if ok && !executed then v
    else { v with
      left := v.left ++ (MainStage.marking info executed).pending
      proc := some { p.noted ok with main := .draining } }
  -- `stop` cancels the loop before it deletes the key
  | .draining => { v with
      left := v.left ++ (p.loop.map LoopStage.pending).getD []
      proc := some { p with main := .deleting false, loop := none } }
  | .deleting executed =>
    if ok && !executed then v
    else { v with
      left := v.left ++ (MainStage.deleting executed).pending
      proc := some { p with main := .stopped } }
  | .stopped => { v with proc := none }

/-- Redis executes the command that is waited for. -/
def executeFor (who : Waiting) (p : Registrar) (v : NodeView) : NodeView :=
  match who, p.loop, p.main with
  | .loop, some (.writing info false), _ => { v.execute env (.set info) with
      proc := some { p.wrote v.now with loop := some (.writing info true) } }
  | .main, _, .starting info false => { v.execute env (.set info) with
      proc := some { p.wrote v.now with main := .starting info true } }
  | .main, _, .marking info false => { v.execute env (.set info) with
      proc := some { p.wrote v.now with main := .marking info true } }
  | .main, _, .deleting false => { v.execute env .del with
      proc := some { p with main := .deleting true } }
  | _, _, _ => v

/-- The command that is waited for is sent again. -/
def resendFor (who : Waiting) (p : Registrar) (v : NodeView) : NodeView :=
  match who, p.loop with
  | .loop, some (.writing info _) => { v with left := v.left ++ [.set info] }
  | .loop, _ => v
  | .main, _ => { v with left := v.left ++ p.main.sent }

/-- `mark_draining`, up to the SET of its `_write`. -/
def markDraining (p : Registrar) (v : NodeView) : NodeView :=
  match p.main with
  | .serving => { v with proc := some { p with
      status := .draining, main := .marking (record n v { p with status := .draining }) false } }
  | _ => v

/-- One step of a node. -/
def step (v : NodeView) (a : NodeAct) : NodeView :=
  match v.proc, a with
  | none, .boot => { v with proc := some { main := .starting ⟨n, .active, 0, v.now⟩ false } }
  | some p, .loop ok => v.loopStep interval n ok p
  | some p, .main ok => v.mainStep ok p
  | some p, .execute who => v.executeFor env who p
  | _, .executeLeft i => match v.left[i]? with
    | some command => { v.execute env command with left := v.left.eraseIdx i }
    | none => v
  | some p, .resend who => v.resendFor who p
  | some p, .shutdown => v.markDraining n p
  | some p, .crash => { v with left := v.left ++ p.pending, proc := none }
  | some p, .connections count => { v with proc := some { p with connections := count } }
  | _, _ => v

end NodeView

section Moves

variable (env : Env) (interval : Nat) (n : NodeId)

/-- The process waits for the SET of this record. -/
def Registrar.InFlight (p : Registrar) (info : NodeInfo) : Prop :=
  ∃ executed, p.loop = some (.writing info executed) ∨ p.main = .starting info executed ∨
    p.main = .marking info executed

/-- **What a step of a node can be.** -/
inductive NodeMove : NodeView → NodeView → Prop
  | stay (v : NodeView) : NodeMove v v
  | boot {v : NodeView} (h : v.proc = none) :
    NodeMove v { v with proc := some { main := .starting ⟨n, .active, 0, v.now⟩ false } }
  /-- The process has come to its end. -/
  | ended (v : NodeView) : NodeMove v { v with proc := none }
  | crash {v : NodeView} {p : Registrar} (h : v.proc = some p) :
    NodeMove v { v with left := v.left ++ p.pending, proc := none }
  | count {v : NodeView} {p : Registrar} (count : Nat) (h : v.proc = some p) :
    NodeMove v { v with proc := some { p with connections := count } }
  /-- The loop comes to `_write`. -/
  | build {v : NodeView} {p : Registrar} {stage : LoopStage} (h : v.proc = some p)
    (hs : p.loop = some stage) (hstage : ∀ info executed, stage ≠ .writing info executed) :
    NodeMove v { v with proc := some { p with loop := some (.writing (v.record n p) false) } }
  | beat {v : NodeView} {p : Registrar} {info : NodeInfo} {executed : Bool} (ok : Bool)
    (h : v.proc = some p) (hs : p.loop = some (.writing info executed))
    (hok : ok = true → executed = true) :
    NodeMove v { v with
      left := v.left ++ (LoopStage.writing info executed).pending
      proc := some { p.noted ok with loop := some (.sleeping (v.now + interval)) } }
  | started {v : NodeView} {p : Registrar} {info : NodeInfo} {executed : Bool} (ok : Bool)
    (h : v.proc = some p) (hm : p.main = .starting info executed) :
    NodeMove v { v with
      left := v.left ++ (MainStage.starting info executed).pending
      proc := some { p.noted ok with main := .serving, loop := some (.created v.now) } }
  | shutdown {v : NodeView} {p : Registrar} (h : v.proc = some p) (hm : p.main = .serving) :
    NodeMove v { v with proc := some { p with
      status := .draining, main := .marking (v.record n { p with status := .draining }) false } }
  | marked {v : NodeView} {p : Registrar} {info : NodeInfo} {executed : Bool} (ok : Bool)
    (h : v.proc = some p) (hm : p.main = .marking info executed) :
    NodeMove v { v with
      left := v.left ++ (MainStage.marking info executed).pending
      proc := some { p.noted ok with main := .draining } }
  | cancel {v : NodeView} {p : Registrar} (h : v.proc = some p) (hm : p.main = .draining) :
    NodeMove v { v with
      left := v.left ++ (p.loop.map LoopStage.pending).getD []
      proc := some { p with main := .deleting false, loop := none } }
  | deleted {v : NodeView} {p : Registrar} {executed : Bool} (h : v.proc = some p)
    (hm : p.main = .deleting executed) :
    NodeMove v { v with
      left := v.left ++ (MainStage.deleting executed).pending
      proc := some { p with main := .stopped } }
  /-- Redis executes the SET the loop waits for. -/
  | beaten {v : NodeView} {p : Registrar} {info : NodeInfo} (h : v.proc = some p)
    (hs : p.loop = some (.writing info false)) :
    NodeMove v { v.execute env (.set info) with
      proc := some { p.wrote v.now with loop := some (.writing info true) } }
  /-- Redis executes the SET `lifespan` waits for. -/
  | wrote {v : NodeView} {p : Registrar} {info : NodeInfo} {stage : Bool → MainStage}
    (h : v.proc = some p) (hm : p.main = stage false)
    (hstage : stage = .starting info ∨ stage = .marking info) :
    NodeMove v { v.execute env (.set info) with
      proc := some { p.wrote v.now with main := stage true } }
  | erased {v : NodeView} {p : Registrar} (h : v.proc = some p) (hm : p.main = .deleting false) :
    NodeMove v { v.execute env .del with proc := some { p with main := .deleting true } }
  /-- Redis executes a command that nobody waits for. -/
  | late {v : NodeView} {command : NodeCommand} {i : Nat} (h : v.left[i]? = some command) :
    NodeMove v { v.execute env command with left := v.left.eraseIdx i }
  | resend {v : NodeView} {p : Registrar} {commands : List NodeCommand} (h : v.proc = some p)
    (hsent : ∀ info, .set info ∈ commands → p.InFlight info) :
    NodeMove v { v with left := v.left ++ commands }

theorem loopStep_move {v : NodeView} {p : Registrar} (h : v.proc = some p) (ok : Bool) :
    NodeMove env interval n v (v.loopStep interval n ok p) := by
  unfold NodeView.loopStep
  split
  · exact .stay v
  · rename_i createdAt hs
    exact .build h hs (fun _ _ => by simp)
  · rename_i info executed hs
    split
    · exact .stay v
    · rename_i hok
      exact .beat ok h hs (by simpa using hok)
  · rename_i due hs
    split
    · exact .build h hs (fun _ _ => by simp)
    · exact .stay v

theorem mainStep_move {v : NodeView} {p : Registrar} (h : v.proc = some p) (ok : Bool) :
    NodeMove env interval n v (v.mainStep ok p) := by
  unfold NodeView.mainStep
  split
  · rename_i info executed hm
    split
    · exact .stay v
    · exact .started ok h hm
  · exact .stay v
  · rename_i info executed hm
    split
    · exact .stay v
    · exact .marked ok h hm
  · rename_i hm
    exact .cancel h hm
  · rename_i executed hm
    split
    · exact .stay v
    · exact .deleted h hm
  · exact .ended v

theorem executeFor_move {v : NodeView} {p : Registrar} (h : v.proc = some p) (who : Waiting) :
    NodeMove env interval n v (v.executeFor env who p) := by
  unfold NodeView.executeFor
  split
  · rename_i info hs
    exact .beaten h hs
  · rename_i info hm
    exact .wrote h hm (Or.inl rfl)
  · rename_i info hm
    exact .wrote h hm (Or.inr rfl)
  · rename_i hm
    exact .erased h hm
  · exact .stay v

theorem resendFor_move {v : NodeView} {p : Registrar} (h : v.proc = some p) (who : Waiting) :
    NodeMove env interval n v (v.resendFor who p) := by
  unfold NodeView.resendFor
  split
  · rename_i info executed hs
    refine .resend h (fun info' hinfo => ?_)
    cases List.mem_singleton.mp hinfo
    exact ⟨executed, Or.inl hs⟩
  · exact .stay v
  · refine .resend h (fun info hinfo => ?_)
    unfold MainStage.sent at hinfo
    split at hinfo
    · rename_i info' executed hm
      cases List.mem_singleton.mp hinfo
      exact ⟨executed, Or.inr (Or.inl hm)⟩
    · rename_i info' executed hm
      cases List.mem_singleton.mp hinfo
      exact ⟨executed, Or.inr (Or.inr hm)⟩
    · cases List.mem_singleton.mp hinfo
    · cases hinfo

theorem step_move (v : NodeView) (a : NodeAct) :
    NodeMove env interval n v (v.step env interval n a) := by
  unfold NodeView.step
  split
  · rename_i h
    exact .boot h
  · rename_i p ok h
    exact loopStep_move env interval n h ok
  · rename_i p ok h
    exact mainStep_move env interval n h ok
  · rename_i p who h
    exact executeFor_move env interval n h who
  · split
    · rename_i h
      exact .late h
    · exact .stay v
  · rename_i p who h
    exact resendFor_move env interval n h who
  · rename_i p h
    unfold NodeView.markDraining
    split
    · rename_i hm
      exact .shutdown h hm
    · exact .stay v
  · rename_i p h
    exact .crash h
  · rename_i p count h
    exact .count count h
  · exact .stay v

theorem NodeView.execute_frame (command : NodeCommand) (v : NodeView) :
    (v.execute env command).now = v.now ∧ (v.execute env command).left = v.left ∧
      (v.execute env command).proc = v.proc := by
  cases command <;> exact ⟨rfl, rfl, rfl⟩

theorem NodeMove.now {v v' : NodeView} (h : NodeMove env interval n v v') : v'.now = v.now := by
  cases h with
  | late h => exact (NodeView.execute_frame env _ v).1
  | _ => rfl

end Moves

/-! ## 3. All nodes -/

/-- The keys `relay:nodes:*`, the commands under way that nobody waits for, and the processes. -/
structure Directory where
  now : Nat := 0
  keys : NodeId → Option (Timed NodeInfo) := fun _ => none
  left : NodeId → List NodeCommand := fun _ => []
  procs : NodeId → Option Registrar := fun _ => none

inductive DirectoryAct
  | node (n : NodeId) (a : NodeAct)
  | tick (micros : Nat)

namespace Directory

variable (env : Env) (interval : Nat)

def view (d : Directory) (n : NodeId) : NodeView := ⟨d.now, d.keys n, d.left n, d.procs n⟩

def step (d : Directory) : DirectoryAct → Directory
  | .node n a =>
    let v := (d.view n).step env interval n a
    { d with
      keys := Function.update d.keys n v.key
      left := Function.update d.left n v.left
      procs := Function.update d.procs n v.proc }
  | .tick micros => { d with now := d.now + micros }

/-- No process runs. -/
def start : Directory := {}

/-- `list_nodes`, on the nodes whose keys `SCAN` returned. -/
def listNodes (scanned : List NodeId) (d : Directory) : List NodeInfo :=
  scanned.filterMap (fun n => Timed.live d.now (d.keys n))

variable {env interval}

theorem view_node (d : Directory) (n m : NodeId) (a : NodeAct) :
    (d.step env interval (.node n a)).view m
      = if m = n then (d.view n).step env interval n a else d.view m := by
  have hnow : ((d.view n).step env interval n a).now = d.now :=
    (step_move env interval n (d.view n) a).now
  rcases eq_or_ne m n with rfl | hne
  · rw [if_pos rfl]
    show NodeView.mk d.now (Function.update d.keys m _ m) (Function.update d.left m _ m)
      (Function.update d.procs m _ m) = _
    rw [Function.update_self, Function.update_self, Function.update_self, ← hnow]
  · rw [if_neg hne]
    simp only [view, step, Function.update_of_ne hne]

/-- **An invariant of one node** that its own steps and the clock keep holds along every run of the
directory. -/
theorem view_invariant (n : NodeId) {ok : Directory → DirectoryAct → Prop} {I : NodeView → Prop}
    (hnode : ∀ d a, I (d.view n) → ok d (.node n a) → I ((d.view n).step env interval n a))
    (htick : ∀ d micros, I (d.view n) → ok d (.tick micros) →
      I { d.view n with now := (d.view n).now + micros })
    (acts : List DirectoryAct) (d : Directory) (h : I (d.view n))
    (hok : Along (step env interval) ok d acts) : I ((runAll (step env interval) d acts).view n) := by
  refine @runAll_invariant _ _ (step env interval) ok (fun d => I (d.view n)) (fun d a hI hoka => ?_)
    acts d h hok
  cases a with
  | tick micros => exact htick d micros hI hoka
  | node m a =>
    rw [view_node]
    split
    · rename_i hnm
      subst hnm
      exact hnode d a hI hoka
    · exact hI

end Directory

/-! ## 4. A record is its own node's, and not older than the TTL -/

section Records

variable {env : Env} {interval : Nat} {n : NodeId}

/-- Redis may still execute the SET of this record. -/
def NodeView.OnItsWay (v : NodeView) (info : NodeInfo) : Prop :=
  .set info ∈ v.left ∨ ∃ p, v.proc = some p ∧ p.InFlight info

theorem LoopStage.mem_pending {stage : LoopStage} {info : NodeInfo}
    (h : .set info ∈ stage.pending) : stage = .writing info false := by
  unfold pending at h
  split at h
  · cases List.mem_singleton.mp h
    rfl
  · cases h

theorem MainStage.mem_pending {stage : MainStage} {info : NodeInfo}
    (h : .set info ∈ stage.pending) : stage = .starting info false ∨ stage = .marking info false := by
  unfold pending at h
  split at h
  · cases List.mem_singleton.mp h
    exact Or.inl rfl
  · cases List.mem_singleton.mp h
    exact Or.inr rfl
  · cases List.mem_singleton.mp h
  · cases h

theorem Registrar.mem_loop_pending {p : Registrar} {info : NodeInfo}
    (h : .set info ∈ (p.loop.map LoopStage.pending).getD []) : p.InFlight info := by
  cases hs : p.loop with
  | none => simp [hs] at h
  | some stage =>
    rw [hs, Option.map_some, Option.getD_some] at h
    exact ⟨false, Or.inl (hs.trans (congrArg some (LoopStage.mem_pending h)))⟩

theorem Registrar.mem_main_pending {p : Registrar} {info : NodeInfo}
    (h : .set info ∈ p.main.pending) : p.InFlight info :=
  ⟨false, Or.inr (MainStage.mem_pending h)⟩

theorem Registrar.noted_frame {ok : Bool} {p : Registrar} :
    (p.noted ok).loop = p.loop ∧ (p.noted ok).main = p.main ∧ (p.noted ok).status = p.status ∧
      (p.noted ok).written = p.written := by
  cases ok <;> exact ⟨rfl, rfl, rfl, rfl⟩

/-- A command that a process leaves behind was on its way. -/
theorem NodeView.OnItsWay.of_append {v : NodeView} {p : Registrar} {commands : List NodeCommand}
    {info : NodeInfo} (hp : v.proc = some p)
    (hsent : .set info ∈ commands → p.InFlight info)
    (h : .set info ∈ v.left ++ commands) : v.OnItsWay info := by
  rcases List.mem_append.mp h with h | h
  · exact Or.inl h
  · exact Or.inr ⟨p, hp, hsent h⟩

/-- A record that is on its way after a step was before, or has just been built. -/
theorem NodeMove.onItsWay {v v' : NodeView} (h : NodeMove env interval n v v') {info : NodeInfo}
    (hinfo : v'.OnItsWay info) : v.OnItsWay info ∨
      (info.nodeId = n ∧ ∃ p', v'.proc = some p' ∧ info.status = p'.status) := by
  cases h with
  | stay => exact Or.inl hinfo
  | boot h =>
    rcases hinfo with hleft | ⟨p', hp', executed, hinfo | hinfo | hinfo⟩
    · exact Or.inl (Or.inl hleft)
    all_goals cases hp'; cases hinfo
    exact Or.inr ⟨rfl, _, rfl, rfl⟩
  | ended =>
    rcases hinfo with hleft | ⟨p', hp', -⟩
    · exact Or.inl (Or.inl hleft)
    · cases hp'
  | @crash p h =>
    rcases hinfo with hleft | ⟨p', hp', -⟩
    · refine Or.inl (.of_append h (fun hc => ?_) hleft)
      exact (List.mem_append.mp hc).elim Registrar.mem_loop_pending Registrar.mem_main_pending
    · cases hp'
  | count c h =>
    rcases hinfo with hleft | ⟨p', hp', hinfo⟩
    · exact Or.inl (Or.inl hleft)
    · cases hp'
      exact Or.inl (Or.inr ⟨_, h, hinfo⟩)
  | build h hs hstage =>
    rcases hinfo with hleft | ⟨p', hp', executed, hinfo | hinfo⟩
    · exact Or.inl (Or.inl hleft)
    · cases hp'
      cases hinfo
      exact Or.inr ⟨rfl, _, rfl, rfl⟩
    · cases hp'
      exact Or.inl (Or.inr ⟨_, h, executed, Or.inr hinfo⟩)
  | beat ok h hs hok =>
    rcases hinfo with hleft | ⟨p', hp', executed, hinfo | hinfo⟩
    · refine Or.inl (.of_append h (fun hc => ?_) hleft)
      exact ⟨false, Or.inl (hs.trans (congrArg some (LoopStage.mem_pending hc)))⟩
    · cases hp'
      cases hinfo
    · cases hp'
      rw [Registrar.noted_frame.2.1] at hinfo
      exact Or.inl (Or.inr ⟨_, h, executed, Or.inr hinfo⟩)
  | started ok h hm =>
    rcases hinfo with hleft | ⟨p', hp', executed, hinfo | hinfo | hinfo⟩
    · exact Or.inl (.of_append h (fun hc => Registrar.mem_main_pending (hm ▸ hc)) hleft)
    all_goals cases hp'; cases hinfo
  | shutdown h hm =>
    rcases hinfo with hleft | ⟨p', hp', executed, hinfo | hinfo | hinfo⟩
    · exact Or.inl (Or.inl hleft)
    · cases hp'
      exact Or.inl (Or.inr ⟨_, h, executed, Or.inl hinfo⟩)
    all_goals cases hp'; cases hinfo
    exact Or.inr ⟨rfl, _, rfl, rfl⟩
  | marked ok h hm =>
    rcases hinfo with hleft | ⟨p', hp', executed, hinfo | hinfo | hinfo⟩
    · exact Or.inl (.of_append h (fun hc => Registrar.mem_main_pending (hm ▸ hc)) hleft)
    · cases hp'
      rw [Registrar.noted_frame.1] at hinfo
      exact Or.inl (Or.inr ⟨_, h, executed, Or.inl hinfo⟩)
    all_goals cases hp'; cases hinfo
  | cancel h hm =>
    rcases hinfo with hleft | ⟨p', hp', executed, hinfo | hinfo | hinfo⟩
    · exact Or.inl (.of_append h Registrar.mem_loop_pending hleft)
    all_goals cases hp'; cases hinfo
  | deleted h hm =>
    rcases hinfo with hleft | ⟨p', hp', executed, hinfo | hinfo | hinfo⟩
    · exact Or.inl (.of_append h (fun hc => Registrar.mem_main_pending (hm ▸ hc)) hleft)
    · cases hp'
      exact Or.inl (Or.inr ⟨_, h, executed, Or.inl hinfo⟩)
    all_goals cases hp'; cases hinfo
  | beaten h hs =>
    rcases hinfo with hleft | ⟨p', hp', executed, hinfo | hinfo⟩
    · exact Or.inl (Or.inl hleft)
    · cases hp'
      cases hinfo
      exact Or.inl (Or.inr ⟨_, h, false, Or.inl hs⟩)
    · cases hp'
      exact Or.inl (Or.inr ⟨_, h, executed, Or.inr hinfo⟩)
  | wrote h hm hstage =>
    rcases hinfo with hleft | ⟨p', hp', executed, hinfo | hinfo⟩
    · exact Or.inl (Or.inl hleft)
    · cases hp'
      exact Or.inl (Or.inr ⟨_, h, executed, Or.inl hinfo⟩)
    · cases hp'
      refine Or.inl (Or.inr ⟨_, h, false, Or.inr ?_⟩)
      rcases hstage with rfl | rfl
      · rcases hinfo with hinfo | hinfo <;> cases hinfo
        exact Or.inl hm
      · rcases hinfo with hinfo | hinfo <;> cases hinfo
        exact Or.inr hm
  | erased h hm =>
    rcases hinfo with hleft | ⟨p', hp', executed, hinfo | hinfo | hinfo⟩
    · exact Or.inl (Or.inl hleft)
    · cases hp'
      exact Or.inl (Or.inr ⟨_, h, executed, Or.inl hinfo⟩)
    all_goals cases hp'; cases hinfo
  | late h =>
    rcases hinfo with hleft | ⟨p', hp', hinfo⟩
    · exact Or.inl (Or.inl (List.mem_of_mem_eraseIdx hleft))
    · exact Or.inl (Or.inr ⟨p', ((NodeView.execute_frame env _ v).2.2 ▸ hp'), hinfo⟩)
  | resend h hsent =>
    rcases hinfo with hleft | hproc
    · exact Or.inl (.of_append h (hsent info) hleft)
    · exact Or.inl (Or.inr hproc)

/-- A step leaves the key alone, deletes it, or writes a record that was on its way. -/
theorem NodeMove.key {v v' : NodeView} (h : NodeMove env interval n v v') :
    v'.key = v.key ∨ v'.key = none ∨ ∃ info, v.OnItsWay info ∧
      v'.key = Timed.lasting v.now env.settings.nodeTtlSeconds info := by
  cases h with
  | beaten h hs =>
    exact Or.inr (Or.inr ⟨_, Or.inr ⟨_, h, false, Or.inl hs⟩, rfl⟩)
  | wrote h hm hstage =>
    refine Or.inr (Or.inr ⟨_, Or.inr ⟨_, h, false, Or.inr ?_⟩, rfl⟩)
    rcases hstage with rfl | rfl
    · exact Or.inl hm
    · exact Or.inr hm
  | erased h hm => exact Or.inr (Or.inl rfl)
  | @late command i h =>
    cases command with
    | set info => exact Or.inr (Or.inr ⟨info, Or.inl (List.mem_of_getElem? h), rfl⟩)
    | del => exact Or.inr (Or.inl rfl)
  | _ => exact Or.inl rfl

/-- The records of a node name it, and the one in Redis expires in time. -/
structure NodeView.Own (env : Env) (n : NodeId) (v : NodeView) : Prop where
  key : ∀ t, v.key = some t → t.val.nodeId = n ∧
    ∃ deadline, t.deadline = some deadline ∧
      deadline ≤ v.now + env.settings.nodeTtlSeconds * 1000000
  way : ∀ info, v.OnItsWay info → info.nodeId = n

theorem NodeView.Own.step {v : NodeView} (h : NodeView.Own env n v) (a : NodeAct) :
    NodeView.Own env n (v.step env interval n a) := by
  have hmove := step_move env interval n v a
  constructor
  · intro t ht
    rw [hmove.now]
    rcases hmove.key with hkey | hkey | ⟨info, hinfo, hkey⟩ <;> rw [hkey] at ht
    · exact h.key t ht
    · cases ht
    · unfold Timed.lasting at ht
      split at ht
      · cases ht
      · cases ht
        exact ⟨h.way info hinfo, _, rfl, Nat.le_refl _⟩
  · intro info hinfo
    rcases hmove.onItsWay hinfo with hold | ⟨hid, -⟩
    · exact h.way info hold
    · exact hid

theorem NodeView.Own.tick {v : NodeView} (h : NodeView.Own env n v) (micros : Nat) :
    NodeView.Own env n { v with now := v.now + micros } := by
  constructor
  · intro t ht
    obtain ⟨hid, deadline, hd, hle⟩ := h.key t ht
    exact ⟨hid, deadline, hd, Nat.le_trans hle (Nat.add_le_add_right (Nat.le_add_right _ _) _)⟩
  · exact h.way

/-- Of a process that does not run, nothing happens to the key but that a command is executed that it
has left behind. -/
theorem NodeView.step_of_none {v : NodeView} (h : v.proc = none) {a : NodeAct} (ha : a ≠ .boot) :
    (v.step env interval n a).proc = none ∧
      ((∀ i, a ≠ .executeLeft i) → (v.step env interval n a).key = v.key) := by
  unfold NodeView.step
  rw [h]
  cases a with
  | boot => exact absurd rfl ha
  | executeLeft i =>
    refine ⟨?_, fun hno => absurd rfl (hno i)⟩
    simp only
    split
    · exact ((NodeView.execute_frame env _ v).2.2).trans h
    · exact h
  | _ => exact ⟨h, fun _ => rfl⟩

/-- The process does not run, and its record expires. -/
def NodeView.Lapsing (deadline : Nat) (v : NodeView) : Prop :=
  v.proc = none ∧ ∀ t, v.key = some t → ∃ e, t.deadline = some e ∧ e ≤ deadline

theorem NodeView.Lapsing.step {deadline : Nat} {v : NodeView} (h : v.Lapsing deadline) {a : NodeAct}
    (ha : a ≠ .boot) (hno : ∀ i, a ≠ .executeLeft i) :
    (v.step env interval n a).Lapsing deadline := by
  obtain ⟨hproc, hkey⟩ := NodeView.step_of_none h.1 ha
  exact ⟨hproc, fun t ht => h.2 t (hkey hno ▸ ht)⟩

namespace Directory

theorem own_run (n : NodeId) (acts : List DirectoryAct) :
    NodeView.Own env n ((runAll (step env interval) start acts).view n) := by
  refine view_invariant n (fun _ a h _ => h.step a) (fun _ micros h _ => h.tick micros) acts start
    ⟨(fun t ht => by cases ht), fun info hinfo => ?_⟩ (along_of_forall acts (fun _ _ => trivial))
  rcases hinfo with hleft | ⟨p, hp, -⟩
  · cases hleft
  · cases hp

/-- What is listed of a node is the record under its key. -/
theorem mem_listNodes {d : Directory} (hown : ∀ m, NodeView.Own env m (d.view m))
    {scanned : List NodeId} {info : NodeInfo} :
    info ∈ listNodes scanned d ↔
      info.nodeId ∈ scanned ∧ Timed.live d.now (d.keys info.nodeId) = some info := by
  rw [listNodes, List.mem_filterMap]
  constructor
  · rintro ⟨m, hm, hlive⟩
    obtain ⟨t, ht, hval⟩ := Timed.live_val hlive
    have hid : info.nodeId = m := hval ▸ ((hown m).key t ht).1
    subst hid
    exact ⟨hm, hlive⟩
  · exact fun h => ⟨info.nodeId, h⟩

/-- The step does not start the process of node `n`. -/
def NotBooted (n : NodeId) (a : DirectoryAct) : Prop := a ≠ .node n .boot

/-- The step does not execute a command that a process of node `n` has left behind. -/
def NotLate (n : NodeId) (a : DirectoryAct) : Prop := ∀ i, a ≠ .node n (.executeLeft i)

/-- **A node that is gone is not listed for long.**  Whatever happened before, and whatever the other
nodes do: once the process of a node has ended, by a crash or otherwise, and Redis has executed the
last of its commands, nothing of it is listed when more than `node_ttl_seconds` have passed, until it
is started again. -/
theorem crashed_node_vanishes (env : Env) (interval : Nat) (n : NodeId)
    (acts later : List DirectoryAct)
    (hgone : (runAll (step env interval) start acts).procs n = none)
    (hlater : ∀ a ∈ later, NotBooted n a ∧ NotLate n a)
    (hclock : (runAll (step env interval) start acts).now + env.settings.nodeTtlSeconds * 1000000
      < (runAll (step env interval) start (acts ++ later)).now) (scanned : List NodeId) :
    ∀ info ∈ listNodes scanned (runAll (step env interval) start (acts ++ later)),
      info.nodeId ≠ n := by
  intro info hinfo hid
  have hstart : NodeView.Lapsing ((runAll (step env interval) start acts).now
      + env.settings.nodeTtlSeconds * 1000000) ((runAll (step env interval) start acts).view n) :=
    ⟨hgone, fun t ht => ((own_run n acts).key t ht).2⟩
  have hend : NodeView.Lapsing ((runAll (step env interval) start acts).now
      + env.settings.nodeTtlSeconds * 1000000)
        ((runAll (step env interval) start (acts ++ later)).view n) := by
    rw [runAll_append]
    exact view_invariant n
      (fun d a h hok => h.step (fun ha => hok.1 (by rw [ha])) (fun i ha => hok.2 i (by rw [ha])))
      (fun d micros h _ => h) later _ hstart (along_of_forall later hlater)
  obtain ⟨-, hlive⟩ := (mem_listNodes (fun m => own_run m (acts ++ later))).mp hinfo
  rw [hid] at hlive
  obtain ⟨t, ht, -⟩ := Timed.live_val hlive
  obtain ⟨e, he, hle⟩ := hend.2 t ht
  rw [ht] at hlive
  obtain ⟨val, deadline⟩ := t
  obtain rfl : deadline = some e := he
  simp only [Timed.live] at hlive
  rw [if_neg (by omega)] at hlive
  cases hlive

/-- A node that crashes at 20 s while its loop waits for a SET, which Redis executes 2 s later. -/
def crashingRun : List DirectoryAct :=
  [.node "a" .boot, .node "a" (.execute .main), .node "a" (.main true), .tick 20000000,
    .node "a" (.loop true), .node "a" .crash, .tick 2000000, .node "a" (.executeLeft 0)]

/-- It is listed for as long as the TTL, and no longer. -/
theorem crashed_node_vanishes_after_ttl :
    (listNodes ["a"] (runAll (step (.plain {}) 5000000) start
        (crashingRun ++ [.tick 15000000]))).length = 1 ∧
      ∀ info ∈ listNodes ["a"] (runAll (step (.plain {}) 5000000) start
        (crashingRun ++ [.tick 15000001])), info.nodeId ≠ "a" :=
  ⟨rfl, crashed_node_vanishes (.plain {}) 5000000 "a" crashingRun [.tick 15000001] rfl
    (by simp [NotBooted, NotLate]) (by decide) ["a"]⟩

end Directory

/-! ## 5. A node that runs is listed -/

/-- The lifespan is past `start` and has not come to `stop`. -/
def Registrar.running (p : Registrar) : Bool :=
  match p.main with
  | .serving => true
  | .marking _ _ => true
  | .draining => true
  | _ => false

/-- From when on the task of the loop may be resumed. -/
def LoopStage.due : LoopStage → Nat
  | .created createdAt => createdAt
  | .writing info _ => info.updatedAt
  | .sleeping due => due

/-- How many awaits there are, with the present one, until the next SET is answered. -/
def LoopStage.waits : LoopStage → Nat
  | .writing _ _ => 1
  | _ => 2

/-- From when on `start` may be resumed. -/
def MainStage.due : MainStage → Option Nat
  | .starting info _ => some info.updatedAt
  | _ => none

/-- The process has not come to `stop`. -/
def Registrar.registered (p : Registrar) : Bool := p.running || p.main.due.isSome

/-- The invariant of a process whose awaits are not more than `late` overdue: the bound on the next
SET moves by a round with every write that fails. -/
structure Registrar.Renewed (env : Env) (interval k late now : Nat)
    (key : Option (Timed NodeInfo)) (p : Registrar) : Prop where
  runs : p.running = p.loop.isSome
  few : p.failures ≤ k
  past : ∀ t, p.written = some t → t ≤ now
  held : p.registered = true → ∀ t, p.written = some t → ∃ info d,
    key = some ⟨info, some d⟩ ∧ t + env.settings.nodeTtlSeconds * 1000000 ≤ d
  begun : ∀ due, p.main.due = some due → due ≤ now ∧ now ≤ due + late ∧
    ∀ t, p.written = some t → due ≤ t
  paced : ∀ stage, p.loop = some stage → now ≤ stage.due + late ∧ stage.due ≤ now + interval
  sent : ∀ info executed, p.loop = some (.writing info executed) → info.updatedAt ≤ now ∧
    (executed = true → ∀ t, p.written = some t → info.updatedAt ≤ t)
  leased : ∀ stage t, p.loop = some stage → p.written = some t →
    stage.due + stage.waits * late ≤ t + (p.failures + 1) * (interval + 2 * late) + late

theorem LoopStage.waits_le (stage : LoopStage) : stage.waits ≤ 2 := by
  cases stage <;> simp [waits]

theorem LoopStage.one_le_waits (stage : LoopStage) : 1 ≤ stage.waits := by
  cases stage <;> simp [waits]

section Renewed

variable {k late now : Nat} {key : Option (Timed NodeInfo)} {v v' : NodeView} {p : Registrar}

/-- A SET is executed at this moment, while the loop is at `stage`. -/
theorem leased_now {stage : LoopStage} (hpace : stage.due ≤ now + interval) :
    stage.due + stage.waits * late ≤ now + (0 + 1) * (interval + 2 * late) + late := by
  have hwaits : stage.waits * late ≤ 2 * late := Nat.mul_le_mul_right late stage.waits_le
  omega

/-- A process in `stop`. -/
theorem renewed_idle (hrun : p.running = false) (hdue : p.main.due = none) (hloop : p.loop = none)
    (hpast : ∀ t, p.written = some t → t ≤ now) (hfew : p.failures ≤ k) :
    p.Renewed env interval k late now key where
  runs := by rw [hrun, hloop]; rfl
  few := hfew
  past := hpast
  held := by simp [Registrar.registered, hrun, hdue]
  begun := by simp [hdue]
  paced := by simp [hloop]
  sent := by simp [hloop]
  leased := by simp [hloop]

theorem Registrar.Renewed.loop_none (h : p.Renewed env interval k late now key)
    (hrun : p.running = false) : p.loop = none :=
  Option.not_isSome_iff_eq_none.mp (by simp [← h.runs, hrun])

/-- The loop comes to `_write`. -/
theorem Registrar.Renewed.build {stage : LoopStage}
    (h : p.Renewed env interval k late v.now key) (hs : p.loop = some stage)
    (hstage : ∀ info executed, stage ≠ .writing info executed) :
    Registrar.Renewed env interval k late v.now key
      { p with loop := some (.writing (v.record n p) false) } := by
  obtain ⟨hnow, -⟩ := h.paced stage hs
  have hwaits : stage.waits = 2 := by
    cases stage with
    | writing info executed => exact absurd rfl (hstage info executed)
    | _ => rfl
  refine ⟨h.runs.trans (by rw [hs]; rfl), h.few, h.past, h.held, h.begun, ?_, ?_, ?_⟩
  · intro stage' hs'
    cases hs'
    exact ⟨Nat.le_add_right _ _, Nat.le_add_right _ _⟩
  · intro info executed hs'
    cases hs'
    exact ⟨Nat.le_refl _, (fun he => by cases he)⟩
  · intro stage' t hs' ht
    cases hs'
    have hdue := h.leased stage t hs ht
    rw [hwaits] at hdue
    simp only [LoopStage.due, LoopStage.waits, NodeView.record]
    omega

/-- An answer counts as a failure or not, and changes nothing else of the bounds. -/
theorem Registrar.failures_noted (ok : Bool) :
    (p.noted ok).failures = p.failures + if ok then 0 else 1 := by
  cases ok <;> rfl

/-- The SET of the loop is answered. -/
theorem Registrar.Renewed.beat {info : NodeInfo} {executed ok : Bool}
    (h : p.Renewed env interval k late v.now key) (hs : p.loop = some (.writing info executed))
    (hok : ok = true → executed = true) (hfew : (p.noted ok).failures ≤ k) :
    Registrar.Renewed env interval k late v.now key
      { p.noted ok with loop := some (.sleeping (v.now + interval)) } := by
  obtain ⟨hloop, hmain, -, hwritten⟩ := @Registrar.noted_frame ok p
  have hfailures := Registrar.failures_noted (p := p) ok
  obtain ⟨hnow, -⟩ := h.paced _ hs
  refine ⟨?_, hfew, ?_, ?_, ?_, ?_, ?_, ?_⟩
  · have hruns := h.runs
    rw [hs] at hruns
    simpa [Registrar.running, hmain] using hruns
  · simpa [hwritten] using h.past
  · simpa [Registrar.registered, Registrar.running, hmain, hwritten] using h.held
  · simpa [hmain, hwritten] using h.begun
  · intro stage hs'
    cases hs'
    exact ⟨Nat.le_trans (Nat.le_add_right _ _) (Nat.le_add_right _ _), Nat.le_refl _⟩
  · intro info' executed' hs'
    cases hs'
  · intro stage t hs' ht
    cases hs'
    have ht' : p.written = some t := hwritten ▸ ht
    have hdue := h.leased _ t hs ht'
    show v.now + interval + 2 * late ≤ t + ((p.noted ok).failures + 1) * (interval + 2 * late) + late
    rw [hfailures]
    simp only [LoopStage.due, LoopStage.waits] at hnow hdue
    cases ok with
    | true =>
      -- the answer is to a SET that was executed after it was sent
      have hsent := (h.sent info executed hs).2 (hok rfl) t ht'
      simp only [if_true, Nat.add_zero, Nat.succ_mul p.failures]
      omega
    | false =>
      simp only [Bool.false_eq_true, if_false, Nat.succ_mul (p.failures + 1)]
      omega

/-- `start` is done: the loop is created. -/
theorem Registrar.Renewed.started {info : NodeInfo} {executed ok : Bool}
    (h : p.Renewed env interval k late v.now key) (hm : p.main = .starting info executed)
    (hfew : (p.noted ok).failures ≤ k) :
    Registrar.Renewed env interval k late v.now key
      { p.noted ok with main := .serving, loop := some (.created v.now) } := by
  obtain ⟨-, -, -, hwritten⟩ := @Registrar.noted_frame ok p
  have hdue : p.main.due = some info.updatedAt := by rw [hm]; rfl
  obtain ⟨-, hnow, hbegun⟩ := h.begun _ hdue
  refine ⟨rfl, hfew, ?_, ?_, ?_, ?_, ?_, ?_⟩
  · simpa [hwritten] using h.past
  · intro _ t ht
    exact h.held (by simp [Registrar.registered, hdue]) t (hwritten ▸ ht)
  · exact fun due hd => by cases hd
  · intro stage hs'
    cases hs'
    exact ⟨Nat.le_add_right _ _, Nat.le_add_right _ _⟩
  · intro info' executed' hs'
    cases hs'
  · intro stage t hs' ht
    cases hs'
    have hsent := hbegun t (hwritten ▸ ht)
    show v.now + 2 * late ≤ t + ((p.noted ok).failures + 1) * (interval + 2 * late) + late
    rw [Nat.succ_mul (p.noted ok).failures]
    omega

/-- The SET of `mark_draining` is answered. -/
theorem Registrar.Renewed.marked {info : NodeInfo} {executed ok : Bool}
    (h : p.Renewed env interval k late v.now key) (hm : p.main = .marking info executed)
    (hfew : (p.noted ok).failures ≤ k) :
    Registrar.Renewed env interval k late v.now key { p.noted ok with main := .draining } := by
  obtain ⟨hloop, -, -, hwritten⟩ := @Registrar.noted_frame ok p
  have hruns : p.running = true := by rw [Registrar.running, hm]
  refine ⟨?_, hfew, ?_, ?_, ?_, ?_, ?_, ?_⟩
  · show true = (p.noted ok).loop.isSome
    rw [hloop, ← h.runs, hruns]
  · simpa [hwritten] using h.past
  · intro _ t ht
    exact h.held (by rw [Registrar.registered, hruns]; rfl) t (hwritten ▸ ht)
  · exact fun due hd => by cases hd
  · simpa [hloop] using h.paced
  · simpa [hloop, hwritten] using h.sent
  · intro stage t hs ht
    refine Nat.le_trans (h.leased stage t (hloop ▸ hs) (hwritten ▸ ht)) ?_
    have hmono : p.failures + 1 ≤ (p.noted ok).failures + 1 := by
      rw [Registrar.failures_noted]
      omega
    exact Nat.add_le_add_right (Nat.add_le_add_left (Nat.mul_le_mul_right _ hmono) t) _

/-- Redis executes a SET: the process has the whole TTL from now on. -/
theorem Registrar.Renewed.wrote (httl : 0 < env.settings.nodeTtlSeconds)
    (h : p.Renewed env interval k late v.now key) (info : NodeInfo) {p' : Registrar}
    (hmain : p'.running = p.running ∧ p'.main.due = p.main.due)
    (hloop : (∃ info', p.loop = some (.writing info' false) ∧
      p'.loop = some (.writing info' true)) ∨ p'.loop = p.loop)
    (hwritten : p'.written = some v.now) (hfailures : p'.failures = 0) :
    p'.Renewed env interval k late v.now
      (Timed.lasting v.now env.settings.nodeTtlSeconds info) := by
  have hstage : ∀ stage, p'.loop = some stage → ∃ old, p.loop = some old ∧ old.due = stage.due := by
    intro stage hs
    rcases hloop with ⟨info', hold, hnew⟩ | hsame
    · rw [hnew] at hs
      cases hs
      exact ⟨_, hold, rfl⟩
    · exact ⟨stage, hsame ▸ hs, rfl⟩
  refine ⟨?_, by rw [hfailures]; exact Nat.zero_le k, ?_, ?_, ?_, ?_, ?_, ?_⟩
  · rw [hmain.1, h.runs]
    rcases hloop with ⟨info', hold, hnew⟩ | hsame
    · rw [hold, hnew]; rfl
    · rw [hsame]
  · intro t ht
    rw [hwritten] at ht
    cases ht
    exact Nat.le_refl _
  · intro _ t ht
    rw [hwritten] at ht
    cases ht
    exact ⟨info, _, Timed.lasting_pos httl info, Nat.le_refl _⟩
  · intro due hd
    obtain ⟨hle, hnow, -⟩ := h.begun due (hmain.2 ▸ hd)
    refine ⟨hle, hnow, fun t ht => ?_⟩
    rw [hwritten] at ht
    cases ht
    exact hle
  · intro stage hs
    obtain ⟨old, hold, hdue⟩ := hstage stage hs
    exact hdue ▸ h.paced old hold
  · intro info' executed hs
    have hle : info'.updatedAt ≤ v.now := by
      rcases hloop with ⟨info'', hold, hnew⟩ | hsame
      · rw [hnew] at hs
        cases hs
        exact (h.sent _ _ hold).1
      · exact (h.sent _ _ (hsame ▸ hs)).1
    refine ⟨hle, fun _ t ht => ?_⟩
    rw [hwritten] at ht
    cases ht
    exact hle
  · intro stage t hs ht
    rw [hwritten] at ht
    cases ht
    obtain ⟨old, hold, hdue⟩ := hstage stage hs
    rw [hfailures]
    exact leased_now (hdue ▸ (h.paced old hold).2)

/-- Redis executes a command that nobody waits for. -/
theorem Registrar.Renewed.executed (httl : 0 < env.settings.nodeTtlSeconds)
    (h : p.Renewed env interval k late v.now key) (command : NodeCommand)
    (hdel : p.registered = true → command ≠ .del) :
    p.Renewed env interval k late v.now (v.execute env command).key := by
  refine ⟨h.runs, h.few, h.past, fun hreg t ht => ?_, h.begun, h.paced, h.sent, h.leased⟩
  cases command with
  | set info =>
    exact ⟨info, _, Timed.lasting_pos httl info, Nat.add_le_add_right (h.past t ht) _⟩
  | del => exact absurd rfl (hdel hreg)

theorem NodeMove.renewed (httl : 0 < env.settings.nodeTtlSeconds)
    (hmove : NodeMove env interval n v v')
    (h : ∀ p, v.proc = some p → p.Renewed env interval k late v.now v.key)
    (hfew : ∀ p, v'.proc = some p → p.failures ≤ k)
    (hdel : ∀ p, v.proc = some p → p.registered = true → .del ∉ v.left) :
    ∀ p, v'.proc = some p → p.Renewed env interval k late v'.now v'.key := by
  intro p' hp'
  rw [hmove.now]
  have hfew' := hfew p' hp'
  cases hmove with
  | stay => exact h p' hp'
  | boot hnone =>
    cases hp'
    refine ⟨rfl, hfew', (fun t ht => by cases ht), (fun _ t ht => by cases ht), fun due hdue => ?_,
      (fun _ hs => by cases hs), (fun _ _ hs => by cases hs), (fun _ _ hs => by cases hs)⟩
    cases hdue
    exact ⟨Nat.le_refl _, Nat.le_add_right _ _, (fun t ht => by cases ht)⟩
  | ended => cases hp'
  | crash => cases hp'
  | count c hp =>
    cases hp'
    have hold := h _ hp
    exact ⟨hold.runs, hold.few, hold.past, hold.held, hold.begun, hold.paced, hold.sent,
      hold.leased⟩
  | build hp hs hstage =>
    cases hp'
    exact (h _ hp).build hs hstage
  | beat ok hp hs hok =>
    cases hp'
    exact (h _ hp).beat hs hok hfew'
  | started ok hp hm =>
    cases hp'
    exact (h _ hp).started hm hfew'
  | @shutdown p hp hm =>
    cases hp'
    have hold := h _ hp
    have hruns : p.running = true := by rw [Registrar.running, hm]
    refine ⟨?_, hfew', hold.past, fun _ => hold.held ?_, (fun due hd => by cases hd), hold.paced,
      hold.sent, hold.leased⟩
    · exact hruns.symm.trans hold.runs
    · rw [Registrar.registered, hruns]
      rfl
  | marked ok hp hm =>
    cases hp'
    exact (h _ hp).marked hm hfew'
  | cancel hp hm =>
    cases hp'
    exact renewed_idle rfl rfl rfl (h _ hp).past hfew'
  | deleted hp hm =>
    cases hp'
    refine renewed_idle rfl rfl ?_ (h _ hp).past hfew'
    exact (h _ hp).loop_none (by rw [Registrar.running, hm])
  | beaten hp hs =>
    cases hp'
    exact (h _ hp).wrote httl _ ⟨rfl, rfl⟩ (Or.inl ⟨_, hs, rfl⟩) rfl rfl
  | wrote hp hm hstage =>
    cases hp'
    refine (h _ hp).wrote httl _ ?_ (Or.inr rfl) rfl rfl
    simp only [Registrar.running, hm]
    rcases hstage with rfl | rfl <;> exact ⟨rfl, rfl⟩
  | erased hp hm =>
    cases hp'
    refine renewed_idle rfl rfl ?_ (h _ hp).past hfew'
    exact (h _ hp).loop_none (by rw [Registrar.running, hm])
  | @late command i hget =>
    have hp : v.proc = some p' := (NodeView.execute_frame env _ v).2.2 ▸ hp'
    refine (h p' hp).executed httl command (fun hreg hc => ?_)
    exact hdel p' hp hreg (hc ▸ List.mem_of_getElem? hget)
  | resend hp hsent => exact h p' hp'

end Renewed

namespace Directory

/-- No more than `k` writes of node `n` in a row fail, no await of its `start` and of its loop is more
than `late` overdue, and no DEL of an earlier process is under way. -/
def Steady (env : Env) (interval : Nat) (n : NodeId) (k late : Nat) (d : Directory)
    (a : DirectoryAct) : Prop :=
  (∀ p ∈ (d.step env interval a).procs n, p.failures ≤ k) ∧
    (∀ p ∈ d.procs n, p.registered = true → .del ∉ d.left n) ∧
    match a with
    | .tick micros => ∀ p ∈ d.procs n, (∀ stage ∈ p.loop, d.now + micros ≤ stage.due + late) ∧
        ∀ due ∈ p.main.due, d.now + micros ≤ due + late
    | .node _ _ => True

instance (k late : Nat) (d : Directory) (a : DirectoryAct) :
    Decidable (Steady env interval n k late d a) :=
  match a with
  | .tick _ => inferInstanceAs (Decidable (_ ∧ _ ∧ _))
  | .node _ _ => inferInstanceAs (Decidable (_ ∧ _ ∧ _))

theorem renewed_run (httl : 0 < env.settings.nodeTtlSeconds) {k late : Nat}
    {acts : List DirectoryAct}
    (h : Along (step env interval) (Steady env interval n k late) start acts) :
    ∀ p, (runAll (step env interval) start acts).procs n = some p →
      p.Renewed env interval k late (runAll (step env interval) start acts).now
        ((runAll (step env interval) start acts).keys n) := by
  refine @view_invariant env interval n _
    (fun v => ∀ p, v.proc = some p → p.Renewed env interval k late v.now v.key)
    (fun d a hI hok => ?_) (fun d micros hI hok p hp => ?_) acts start (fun p hp => ?_) h
  · refine (step_move env interval n (d.view n) a).renewed httl hI (fun p hp => hok.1 p ?_) hok.2.1
    have hview : (d.step env interval (.node n a)).view n = (d.view n).step env interval n a := by
      rw [view_node, if_pos rfl]
    rw [Option.mem_def, ← hp, ← hview]
    rfl
  · have hold := hI p hp
    obtain ⟨hloop, hmain⟩ := hok.2.2 p hp
    have hle : d.now ≤ d.now + micros := Nat.le_add_right _ _
    refine ⟨hold.runs, hold.few, fun t ht => (hold.past t ht).trans hle, hold.held,
      fun due hdue => ?_, fun stage hs => ?_, fun info executed hs => ?_, hold.leased⟩
    · obtain ⟨hdue', -, hsent⟩ := hold.begun due hdue
      exact ⟨hdue'.trans hle, hmain due hdue, hsent⟩
    · exact ⟨hloop stage hs, (hold.paced stage hs).2.trans (Nat.add_le_add_right hle _)⟩
    · obtain ⟨hbuilt, hsent⟩ := hold.sent info executed hs
      exact ⟨hbuilt.trans hle, hsent⟩
  · cases hp

/-- **A node that runs is listed.**  Let no more than `k` writes of the node in a row fail, no await of
its registrar be more than `late` overdue, and no DEL of an earlier process of the node be under way.
If `k + 1` rounds of the loop and one more delay fit in the TTL, then from the end of `start` on, once
one of its SETs has been executed and until it stops, the node is listed whenever it is looked
for. -/
theorem running_node_listed (env : Env) (interval : Nat) (n : NodeId) (k late : Nat)
    (hfit : (k + 1) * (interval + 2 * late) + late < env.settings.nodeTtlSeconds * 1000000)
    (acts : List DirectoryAct)
    (hsteady : Along (step env interval) (Steady env interval n k late) start acts) (p : Registrar)
    (hp : (runAll (step env interval) start acts).procs n = some p) (hrun : p.running = true)
    (hwritten : p.written ≠ none) (scanned : List NodeId) (hscan : n ∈ scanned) :
    ∃ info ∈ listNodes scanned (runAll (step env interval) start acts), info.nodeId = n := by
  have hren := renewed_run (by omega) hsteady p hp
  obtain ⟨stage, hstage⟩ : ∃ stage, p.loop = some stage :=
    Option.isSome_iff_exists.mp (hren.runs ▸ hrun)
  obtain ⟨t, ht⟩ := Option.ne_none_iff_exists'.mp hwritten
  obtain ⟨info, deadline, hkey, hheld⟩ := hren.held (by rw [Registrar.registered, hrun]; rfl) t ht
  have hdue := hren.leased stage t hstage ht
  have hnow := (hren.paced stage hstage).1
  have hwait : 1 * late ≤ stage.waits * late := Nat.mul_le_mul_right late stage.one_le_waits
  have hrounds : (p.failures + 1) * (interval + 2 * late) ≤ (k + 1) * (interval + 2 * late) :=
    Nat.mul_le_mul_right _ (Nat.succ_le_succ hren.few)
  have hlive : Timed.live (runAll (step env interval) start acts).now
      ((runAll (step env interval) start acts).keys n) = some info := by
    rw [hkey]
    exact if_pos (by omega)
  have hid : info.nodeId = n := ((own_run n acts).key _ hkey).1
  refine ⟨info, (mem_listNodes (fun m => own_run m acts)).mpr ⟨hid ▸ hscan, ?_⟩, hid⟩
  rw [hid]
  exact hlive

/-- With the defaults, a node one of whose writes has failed is still listed 10 s after the last one
that succeeded. -/
theorem running_node_listed_one_failure : ∃ info ∈ listNodes ["a"]
    (runAll (step (.plain {}) 5000000) start [.node "a" .boot, .node "a" (.execute .main),
      .node "a" (.main true), .node "a" (.loop true), .node "a" (.execute .loop),
      .node "a" (.loop true), .tick 5000000, .node "a" (.loop true), .node "a" (.loop false),
      .tick 5000000]), info.nodeId = "a" :=
  running_node_listed (.plain {}) 5000000 "a" 1 0 (by decide) _ (by decide) _ rfl rfl
    (by decide) ["a"] (by simp)

end Directory

/-! ## 6. A node that drains -/

/-- Every record of the node that is or may still be written says that it is draining. -/
structure NodeView.Draining (v : NodeView) : Prop where
  key : ∀ t, v.key = some t → t.val.status = .draining
  proc : ∀ p, v.proc = some p → p.status = .draining
  way : ∀ info, v.OnItsWay info → info.status = .draining

/-- Nothing sets the status back. -/
theorem NodeMove.status {v v' : NodeView} (h : NodeMove env interval n v v') {p' : Registrar}
    (hp' : v'.proc = some p') : v.proc = none ∨
      ∃ p, v.proc = some p ∧ (p'.status = p.status ∨ p'.status = .draining) := by
  cases h with
  | stay => exact Or.inr ⟨p', hp', Or.inl rfl⟩
  | boot h => exact Or.inl h
  | ended => cases hp'
  | crash h => cases hp'
  | beat ok h hs hok => cases hp'; exact Or.inr ⟨_, h, Or.inl Registrar.noted_frame.2.2.1⟩
  | started ok h hm => cases hp'; exact Or.inr ⟨_, h, Or.inl Registrar.noted_frame.2.2.1⟩
  | marked ok h hm => cases hp'; exact Or.inr ⟨_, h, Or.inl Registrar.noted_frame.2.2.1⟩
  | shutdown h hm => cases hp'; exact Or.inr ⟨_, h, Or.inr rfl⟩
  | late h => exact Or.inr ⟨p', (NodeView.execute_frame env _ v).2.2 ▸ hp', Or.inl rfl⟩
  | resend h hsent => exact Or.inr ⟨p', hp', Or.inl rfl⟩
  | count c h => cases hp'; exact Or.inr ⟨_, h, Or.inl rfl⟩
  | build h hs hstage => cases hp'; exact Or.inr ⟨_, h, Or.inl rfl⟩
  | cancel h hm => cases hp'; exact Or.inr ⟨_, h, Or.inl rfl⟩
  | deleted h hm => cases hp'; exact Or.inr ⟨_, h, Or.inl rfl⟩
  | beaten h hs => cases hp'; exact Or.inr ⟨_, h, Or.inl rfl⟩
  | wrote h hm hstage => cases hp'; exact Or.inr ⟨_, h, Or.inl rfl⟩
  | erased h hm => cases hp'; exact Or.inr ⟨_, h, Or.inl rfl⟩

theorem NodeView.Draining.step {v : NodeView} (h : v.Draining) {a : NodeAct} (ha : a ≠ .boot) :
    (v.step env interval n a).Draining := by
  have hmove := step_move env interval n v a
  have hstatus : ∀ p', (v.step env interval n a).proc = some p' → p'.status = .draining := by
    intro p' hp'
    rcases hmove.status hp' with hnone | ⟨p, hp, hkept | hset⟩
    · rw [(NodeView.step_of_none hnone ha).1] at hp'
      cases hp'
    · exact hkept.trans (h.proc p hp)
    · exact hset
  refine ⟨fun t ht => ?_, hstatus, fun info hinfo => ?_⟩
  · rcases hmove.key with hkey | hkey | ⟨info, hinfo, hkey⟩ <;> rw [hkey] at ht
    · exact h.key t ht
    · cases ht
    · rw [Timed.val_lasting ht]
      exact h.way info hinfo
  · rcases hmove.onItsWay hinfo with hold | ⟨-, p', hp', hnew⟩
    · exact h.way info hold
    · exact hnew.trans (hstatus p' hp')

namespace Directory

/-- **A node that drains is not listed as active again.**  Once the record of a node says that it is
draining, the process has that status, and no write from before is in flight, every listing shows it
as draining, until it is started again. -/
theorem draining_stays_visible (env : Env) (interval : Nat) (n : NodeId)
    (acts later : List DirectoryAct)
    (hdraining : ((runAll (step env interval) start acts).view n).Draining)
    (hlater : ∀ a ∈ later, NotBooted n a) (scanned : List NodeId) :
    ∀ info ∈ listNodes scanned (runAll (step env interval) start (acts ++ later)),
      info.nodeId = n → info.status = .draining := by
  intro info hinfo hid
  have hend : ((runAll (step env interval) start (acts ++ later)).view n).Draining := by
    rw [runAll_append]
    exact view_invariant n (fun d a h hok => h.step (fun ha => hok (by rw [ha])))
      (fun d micros h _ => ⟨h.key, h.proc, h.way⟩) later _ hdraining (along_of_forall later hlater)
  obtain ⟨-, hlive⟩ := (mem_listNodes (fun m => own_run m (acts ++ later))).mp hinfo
  rw [hid] at hlive
  obtain ⟨t, ht, hval⟩ := Timed.live_val hlive
  exact hval ▸ hend.key t ht

/-- A node that begins to drain while its loop sleeps. -/
def orderlyDrain : List DirectoryAct :=
  [.node "a" .boot, .node "a" (.execute .main), .node "a" (.main true), .node "a" (.loop true),
    .node "a" (.execute .loop), .node "a" (.loop true), .node "a" .shutdown,
    .node "a" (.execute .main), .node "a" (.main true)]

theorem draining_stays_visible_orderly :
    (listNodes ["a"] (runAll (step (.plain {}) 5000000) start orderlyDrain)).length = 1 ∧
      ∀ info ∈ listNodes ["a"] (runAll (step (.plain {}) 5000000) start (orderlyDrain ++
        [.tick 5000000, .node "a" (.loop true), .node "a" (.execute .loop)])),
        info.nodeId = "a" → info.status = .draining := by
  refine ⟨rfl, draining_stays_visible (.plain {}) 5000000 "a" orderlyDrain _
    ⟨fun t ht => ?_, fun p hp => ?_, fun info hinfo => ?_⟩ (by simp [NotBooted]) ["a"]⟩
  · cases ht
    rfl
  · cases hp
    rfl
  · rcases hinfo with hleft | ⟨p, hp, executed, hinfo | hinfo | hinfo⟩
    · cases hleft
    all_goals cases hp; cases hinfo

-- The condition on writes in flight is needed: the loop has sent its record when the draining
-- begins, and its SET reaches Redis after the one of `mark_draining`.
example : (listNodes ["a"] (runAll (step (.plain {}) 5000000) start
    [.node "a" .boot, .node "a" (.execute .main), .node "a" (.main true), .node "a" (.loop true),
      .node "a" .shutdown, .node "a" (.execute .main), .node "a" (.main true),
      .node "a" (.execute .loop)])).map NodeInfo.status = [.active] := by
  decide

end Directory

end Records

end Relay
