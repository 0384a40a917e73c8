/-
# Presence across concurrent connects and disconnects

`presence/tracker.py` keeps the set of a user's connections in Redis.  `connection_online` adds a
member in one transaction; `connection_offline` removes its member, counts what is left, and deletes
the key when nothing is: three commands, between which another connection of the user may come
online on another node.

If it does so between the count and the deletion, the deletion takes it away: the user is OFFLINE
with a live connection, and `connection_offline` has answered True.  `presence_exact` says that this
is the only way to go wrong: in every interleaving in which no connection comes online while another
one is between its SCARD, which returned 0, and its DEL, the set is exactly the set of connections
online.
-/
import Mathlib
import Relay.Redis
import Relay.Lib.Stages

namespace Relay

open Redis Presence Stages

/-! ## 1. The life of a connection -/

/-- How far a connection of a user has come. -/
inductive LifeStage
  /-- `connection_online` has not been called. -/
  | away (x : ConnId)
  /-- `connection_online` has returned. -/
  | online (x : ConnId)
  /-- `connection_offline` has executed SREM. -/
  | removed (x : ConnId)
  /-- Its SCARD has returned 0. -/
  | deleting (x : ConnId)
  /-- It has returned. -/
  | gone (x : ConnId) (last : Bool)
  | failed (x : ConnId) (e : Exn)
  deriving DecidableEq, Repr

namespace LifeStage

/-- The connection. -/
def conn : LifeStage → ConnId
  | away x | online x | removed x | deleting x | gone x _ | failed x _ => x

section

variable (env : Env) (tenantId userId : String)

/-- The transaction of `connection_online`. -/
def setOnline (x : ConnId) (r : Redis) : Except Exn Unit × Redis :=
  let res := addMember (key tenantId userId) x r
  (res.1, expireKey (key tenantId userId) env.settings.presenceTtlSeconds res.2)

/-- The DEL of `connection_offline`. -/
def deleteUser (r : Redis) : Except Exn Unit × Redis :=
  (.ok (), deleteKey (stateKey tenantId userId) (deleteKey (key tenantId userId) r))

/-- The rest of the life of a connection: it comes online and, at some time, goes offline. -/
def prog : LifeStage → Prog Redis Exn Bool
  | away x => do
    connectionOnline env tenantId userId x
    connectionOffline tenantId userId x
  | online x => connectionOffline tenantId userId x
  | removed _ => do
    let remaining ← command (countMembers (key tenantId userId))
    if remaining = 0 then
      command (deleteUser tenantId userId)
      return true
    else
      return false
  | deleting _ => do
    command (deleteUser tenantId userId)
    return true
  | gone _ last => .ret last
  | failed _ e => .raise e

/-- The next command of a connection. -/
def next (st : LifeStage) (r : Redis) : Redis × LifeStage :=
  match st with
  | away x => settle (fun _ => online x) (failed x) (attempt (setOnline env tenantId userId x) r)
  | online x => settle (fun _ => removed x) (failed x)
      (attempt (removeMember (key tenantId userId) x) r)
  | removed x => settle (fun k => if k = 0 then deleting x else gone x false) (failed x)
      (attempt (countMembers (key tenantId userId)) r)
  | deleting x => settle (fun _ => gone x true) (failed x) (attempt (deleteUser tenantId userId) r)
  | gone x last => (r, gone x last)
  | failed x e => (r, failed x e)

theorem sound : Sound (prog env tenantId userId) (next env tenantId userId) := by
  intro st
  cases st with
  | away x => exact sound_atomic _ (failed x) rfl (fun _ => rfl) (fun _ => rfl) (fun _ => rfl)
  | online x => exact sound_atomic _ (failed x) rfl (fun _ => rfl) (fun _ => rfl) (fun _ => rfl)
  | removed x =>
    refine sound_atomic (fun k => if k = 0 then deleting x else gone x false) (failed x) rfl
      (fun k => ?_) (fun _ => rfl) (fun _ => rfl)
    split <;> rfl
  | deleting x => exact sound_atomic _ (failed x) rfl (fun _ => rfl) (fun _ => rfl) (fun _ => rfl)
  | gone x last => exact sound_ret rfl (fun _ => rfl)
  | failed x e => exact sound_raise rfl (fun _ => rfl)

end

/-- A call of the connection is in progress. -/
def InProgress : LifeStage → Prop
  | removed _ | deleting _ => True
  | _ => False

instance : DecidablePred InProgress := fun st => by
  cases st <;> unfold InProgress <;> infer_instance

end LifeStage

/-! ## 2. The members of the set -/

/-- The connections in a user's presence set. -/
def members (k : String) (r : Redis) : List ConnId :=
  match Timed.live r.now (r.presence k) with
  | some (.set s) => s.elems
  | _ => []

/-- The key holds a set or nothing. -/
def HoldsSet (k : String) (r : Redis) : Prop :=
  ∀ s, Timed.live r.now (r.presence k) ≠ some (.str s)

section Members

variable {env : Env} {tenantId userId : String} {k : String} {x y : ConnId} {r : Redis}

theorem members_setPresence (v : Option (Timed PresenceValue)) :
    members k (r.setPresence k v) = match Timed.live r.now v with
      | some (.set s) => s.elems
      | _ => [] := by
  simp [members, setPresence]

theorem holdsSet_setPresence {v : Option (Timed PresenceValue)}
    (h : ∀ s, Timed.live r.now v ≠ some (.str s)) : HoldsSet k (r.setPresence k v) := by
  simpa [HoldsSet, setPresence] using h

theorem setOnline_spec (httl : 0 < env.settings.presenceTtlSeconds)
    (h : HoldsSet (key tenantId userId) r) :
    ∃ r', LifeStage.setOnline env tenantId userId x r = (.ok (), r') ∧ r'.faults = r.faults ∧
      HoldsSet (key tenantId userId) r' ∧
      ∀ y, y ∈ members (key tenantId userId) r' ↔ y = x ∨ y ∈ members (key tenantId userId) r := by
  unfold LifeStage.setOnline addMember
  cases hl : Timed.live r.now (r.presence (key tenantId userId)) with
  | none =>
    refine ⟨_, rfl, rfl, ?_, fun y => ?_⟩
    · refine holdsSet_setPresence (fun s => ?_)
      rw [show (r.setPresence (key tenantId userId) _).now = r.now from rfl, live_expire httl]
      simp [setPresence, Timed.live]
    · have hold : members (key tenantId userId) r = [] := by rw [members, hl]
      rw [expireKey, members_setPresence, live_expire httl, hold]
      simp [setPresence, Timed.live, ← OSet.mem_def]
  | some v =>
    cases v with
    | str s => exact absurd hl (h s)
    | set s =>
      refine ⟨_, rfl, rfl, ?_, fun y => ?_⟩
      · refine holdsSet_setPresence (fun s' => ?_)
        rw [show (r.setPresence (key tenantId userId) _).now = r.now from rfl, live_expire httl]
        simp [setPresence, Timed.live_deadlineOf hl]
      · rw [expireKey, members_setPresence, live_expire httl]
        simp [setPresence, Timed.live_deadlineOf hl, members, hl, ← OSet.mem_def]

theorem removeMember_spec (h : HoldsSet k r) :
    ∃ r', removeMember k x r = (.ok (), r') ∧ r'.faults = r.faults ∧ HoldsSet k r' ∧
      ∀ y, y ∈ members k r' ↔ y ≠ x ∧ y ∈ members k r := by
  unfold removeMember
  cases hl : Timed.live r.now (r.presence k) with
  | none => exact ⟨r, rfl, rfl, h, fun y => by simp [members, hl]⟩
  | some v =>
    cases v with
    | str s => exact absurd hl (h s)
    | set s =>
      refine ⟨_, rfl, rfl, ?_, fun y => ?_⟩
      · refine holdsSet_setPresence (fun s' => ?_)
        split
        · simp [Timed.live]
        · simp [Timed.live_deadlineOf hl]
      · rw [members_setPresence]
        have hmem : y ∈ (s.discard x).elems ↔ y ≠ x ∧ y ∈ members k r := by
          rw [← OSet.mem_def, OSet.mem_discard, members, hl, OSet.mem_def]
        rw [← hmem]
        by_cases hempty : (s.discard x).elems.isEmpty
        · rw [if_pos hempty, List.isEmpty_iff.mp hempty]
          simp [Timed.live]
        · rw [if_neg hempty, Timed.live_deadlineOf hl]

theorem countMembers_spec (h : HoldsSet k r) :
    countMembers k r = (.ok (members k r).length, r) := by
  unfold countMembers members
  cases hl : Timed.live r.now (r.presence k) with
  | none => rfl
  | some v =>
    cases v with
    | str s => exact absurd hl (h s)
    | set s => rfl

theorem deleteUser_spec (tenantId userId : String) (r : Redis) :
    ∃ r', LifeStage.deleteUser tenantId userId r = (.ok (), r') ∧ r'.faults = r.faults ∧
      HoldsSet (key tenantId userId) r' ∧ members (key tenantId userId) r' = [] := by
  have hnone : (deleteKey (stateKey tenantId userId) (deleteKey (key tenantId userId) r)).presence
      (key tenantId userId) = none := by
    simp only [deleteKey, setPresence, Function.update_apply]
    split <;> rfl
  refine ⟨_, rfl, rfl, fun s => ?_, ?_⟩
  · simp [hnone, Timed.live]
  · simp [members, hnone, Timed.live]

end Members

/-! ## 3. The race -/

/-- The connections as programs, before any of them has come online. -/
def presencePool (env : Env) (tenantId userId : String) (r : Redis) (ids : List ConnId) :
    Pool Redis Exn Bool :=
  ⟨r, ids.map (fun x => do
    connectionOnline env tenantId userId x
    connectionOffline tenantId userId x)⟩

/-- The same by stages. -/
def presenceTasks (r : Redis) (ids : List ConnId) : Tasks Redis LifeStage := ⟨r, ids.map .away⟩

/-- No connection comes online while another one is about to delete the key. -/
def NotDeleting (t : Tasks Redis LifeStage) (i : Nat) : Prop :=
  ∀ st ∈ t.stages[i]?, ∀ other ∈ t.stages,
    match st, other with
    | .away _, .deleting _ => False
    | _, _ => True

instance (t : Tasks Redis LifeStage) (i : Nat) : Decidable (NotDeleting t i) := by
  unfold NotDeleting
  have : ∀ st other : LifeStage, Decidable (match st, other with
      | .away _, .deleting _ => False
      | _, _ => True) := fun st other => by split <;> infer_instance
  infer_instance

/-- A call that returns True in a step does so while no connection is online. -/
def TrueWhenNone (t t' : Tasks Redis LifeStage) : Prop :=
  ∀ x, .gone x true ∉ t.stages → .gone x true ∈ t'.stages → ∀ y, .online y ∉ t'.stages

/-- The set is the set of connections online, and it is empty while a deletion is coming. -/
structure Present (k : String) (ids : List ConnId) (t : Tasks Redis LifeStage) : Prop where
  up : t.state.faults = []
  holds : HoldsSet k t.state
  ids : t.stages.map LifeStage.conn = ids
  online : ∀ y, y ∈ members k t.state ↔ .online y ∈ t.stages
  deleting : ∀ x y, .deleting x ∈ t.stages → .online y ∉ t.stages

section Race

variable {env : Env} {tenantId userId : String} {ids : List ConnId} {r r' : Redis}
  {before after : List LifeStage} {x : ConnId}

/-- Only one connection of the list has the id. -/
theorem not_mem_of_conn {st st' : LifeStage}
    (hnd : (List.map LifeStage.conn (before ++ st :: after)).Nodup) (hc : st'.conn = st.conn) :
    st' ∉ before ∧ st' ∉ after := by
  simp only [List.map_append, List.map_cons, List.nodup_middle, List.nodup_cons, List.mem_append,
    not_or, ← hc] at hnd
  exact ⟨fun h => hnd.1.1 (List.mem_map_of_mem h), fun h => hnd.1.2 (List.mem_map_of_mem h)⟩

/-- The other connections of the list, around one that moves. -/
theorem mem_around {st st' : LifeStage} :
    st' ∈ before ++ st :: after ↔ st' = st ∨ st' ∈ before ∨ st' ∈ after := by
  simp only [List.mem_append, List.mem_cons]
  tauto

/-- SADD and EXPIRE, while nobody is about to delete the key. -/
theorem Present.comesOnline {k : String} (h : Present k ids ⟨r, before ++ .away x :: after⟩)
    (hdel : ∀ y, .deleting y ∉ before ++ .away x :: after) (hup : r'.faults = [])
    (hset : HoldsSet k r') (hmem : ∀ y, y ∈ members k r' ↔ y = x ∨ y ∈ members k r) :
    Present k ids ⟨r', before ++ .online x :: after⟩ := by
  refine ⟨hup, hset, by simpa [LifeStage.conn] using h.ids, fun y => ?_, fun y z hy => ?_⟩
  · have hold := h.online y
    simp only [mem_around, reduceCtorEq, false_or] at hold
    rw [hmem, hold, mem_around, LifeStage.online.injEq]
  · refine absurd ?_ (hdel y)
    simpa only [mem_around, reduceCtorEq, false_or] using hy

/-- SREM. -/
theorem Present.goesOffline {k : String} (hnd : ids.Nodup)
    (h : Present k ids ⟨r, before ++ .online x :: after⟩) (hup : r'.faults = [])
    (hset : HoldsSet k r') (hmem : ∀ y, y ∈ members k r' ↔ y ≠ x ∧ y ∈ members k r) :
    Present k ids ⟨r', before ++ .removed x :: after⟩ := by
  have hids := h.ids
  rw [← hids] at hnd
  have hother : LifeStage.online x ∉ before ∧ .online x ∉ after := not_mem_of_conn hnd rfl
  refine ⟨hup, hset, by simpa [LifeStage.conn] using hids, fun y => ?_, fun y z hy => ?_⟩
  · have hold := h.online y
    simp only [mem_around, LifeStage.online.injEq] at hold
    simp only [hmem, hold, mem_around, reduceCtorEq, false_or]
    refine ⟨fun hy => hy.2.resolve_left hy.1, fun hy => ⟨?_, Or.inr hy⟩⟩
    rintro rfl
    exact hy.elim hother.1 hother.2
  · have hold := h.deleting y z (by simpa only [mem_around, reduceCtorEq, false_or] using hy)
    simp only [mem_around, reduceCtorEq, false_or, not_or] at hold ⊢
    exact hold.2

/-- SCARD. -/
theorem Present.counts {k : String} (h : Present k ids ⟨r, before ++ .removed x :: after⟩) :
    Present k ids ⟨r, before ++
      (if (members k r).length = 0 then .deleting x else .gone x false) :: after⟩ := by
  have hold : ∀ y, .online y ∈ before ++ .removed x :: after ↔
      LifeStage.online y ∈ before ∨ .online y ∈ after := by
    simp only [mem_around, reduceCtorEq, false_or, implies_true]
  split
  · rename_i hzero
    have hnone : ∀ y, .online y ∉ before ++ .removed x :: after := by
      intro y hy
      have := (h.online y).mpr hy
      rw [List.eq_nil_of_length_eq_zero hzero] at this
      exact absurd this List.not_mem_nil
    refine ⟨h.up, h.holds, by simpa [LifeStage.conn] using h.ids, fun y => ?_, fun y z _ => ?_⟩
    · rw [h.online y, hold]
      simp only [mem_around, reduceCtorEq, false_or]
    · have := hnone z
      rw [hold] at this
      simpa only [mem_around, reduceCtorEq, false_or] using this
  · refine ⟨h.up, h.holds, by simpa [LifeStage.conn] using h.ids, fun y => ?_, fun y z hy => ?_⟩
    · rw [h.online y, hold]
      simp only [mem_around, reduceCtorEq, false_or]
    · have := h.deleting y z (by simpa only [mem_around, reduceCtorEq, false_or] using hy)
      rw [hold] at this
      simpa only [mem_around, reduceCtorEq, false_or] using this

/-- DEL. -/
theorem Present.deletes {k : String} (h : Present k ids ⟨r, before ++ .deleting x :: after⟩)
    (hup : r'.faults = []) (hset : HoldsSet k r') (hmem : members k r' = []) :
    Present k ids ⟨r', before ++ .gone x true :: after⟩ ∧
      ∀ y, .online y ∉ before ++ .gone x true :: after := by
  have hnone : ∀ y, .online y ∉ before ++ .gone x true :: after := by
    intro y
    have := h.deleting x y (by simp)
    simpa only [mem_around, reduceCtorEq, false_or] using this
  refine ⟨⟨hup, hset, by simpa [LifeStage.conn] using h.ids, fun y => ?_, fun y z _ => hnone z⟩,
    hnone⟩
  rw [hmem]
  exact iff_of_false List.not_mem_nil (hnone y)

/-- **One step.** -/
theorem present_step (httl : 0 < env.settings.presenceTtlSeconds) (hnd : ids.Nodup)
    {t : Tasks Redis LifeStage} (h : Present (key tenantId userId) ids t) {i : Nat}
    (hi : NotDeleting t i) :
    Present (key tenantId userId) ids (t.step (LifeStage.next env tenantId userId) i) ∧
      TrueWhenNone t (t.step (LifeStage.next env tenantId userId) i) := by
  obtain ⟨r, stages⟩ := t
  have hup : r.faults = [] := h.up
  rcases Tasks.step_cases (LifeStage.next env tenantId userId) ⟨r, stages⟩ i with
    ⟨_, heq⟩ | ⟨before, st, after, hst, hget, heq⟩
  · rw [heq]
    exact ⟨h, fun x hne hx => absurd hx hne⟩
  simp only at hst
  subst hst
  -- a step that does not return True has only the invariant to show
  have hquiet : ∀ (r' : Redis) (st' : LifeStage), (∀ x, st' ≠ .gone x true) →
      TrueWhenNone ⟨r, before ++ st :: after⟩ ⟨r', before ++ st' :: after⟩ := by
    intro r' st' hne x hnot hx
    simp only [mem_around, not_or] at hnot hx
    rcases hx with hx | hx
    · exact absurd hx.symm (hne x)
    · exact absurd hx (not_or.mpr hnot.2)
  rw [heq]
  cases st with
  | away x =>
    obtain ⟨r', hrun, hf, hset, hmem⟩ := setOnline_spec (x := x) httl h.holds
    simp only [LifeStage.next, attempt_up _ hup, hrun, settle]
    refine ⟨h.comesOnline (fun y hy => ?_) (hf.trans hup) hset hmem, hquiet r' _ (by simp)⟩
    exact hi _ hget _ hy
  | online x =>
    obtain ⟨r', hrun, hf, hset, hmem⟩ := removeMember_spec (x := x) h.holds
    simp only [LifeStage.next, attempt_up _ hup, hrun, settle]
    exact ⟨h.goesOffline hnd (hf.trans hup) hset hmem, hquiet r' _ (by simp)⟩
  | removed x =>
    simp only [LifeStage.next, attempt_up _ hup, countMembers_spec h.holds, settle]
    refine ⟨h.counts, hquiet r _ (fun y => ?_)⟩
    split <;> simp
  | deleting x =>
    obtain ⟨r', hrun, hf, hset, hmem⟩ := deleteUser_spec tenantId userId r
    simp only [LifeStage.next, attempt_up _ hup, hrun, settle]
    obtain ⟨hexact, hnone⟩ := h.deletes (hf.trans hup) hset hmem
    exact ⟨hexact, fun _ _ _ => hnone⟩
  | gone x last => exact ⟨h, fun y hne hy => absurd hy hne⟩
  | failed x e => exact ⟨h, fun y hne hy => absurd hy hne⟩

/-- A whole run. -/
theorem present_run (httl : 0 < env.settings.presenceTtlSeconds) (hnd : ids.Nodup) :
    ∀ (sched : List Nat) {t : Tasks Redis LifeStage}, Present (key tenantId userId) ids t →
      Along (Tasks.step (LifeStage.next env tenantId userId)) NotDeleting t sched →
      Present (key tenantId userId) ids
          (runAll (Tasks.step (LifeStage.next env tenantId userId)) t sched) ∧
        Along (Tasks.step (LifeStage.next env tenantId userId)) (fun t i =>
          TrueWhenNone t (t.step (LifeStage.next env tenantId userId) i)) t sched
  | [], _, h, _ => ⟨h, trivial⟩
  | _ :: sched, _, h, hok => by
    obtain ⟨hstep, htrue⟩ := present_step httl hnd h hok.1
    obtain ⟨hrun, halong⟩ := present_run httl hnd sched hstep hok.2
    exact ⟨hrun, htrue, halong⟩

/-- `get_presence` while Redis is up: an SCARD and, unless it is 0, a GET. -/
theorem getPresence_run (tenantId userId : String) (hup : r.faults = []) :
    (getPresence tenantId userId).run r =
      ((countMembers (key tenantId userId) r).1.bind (fun connections =>
        if connections = 0 then .ok ⟨userId, .offline, 0⟩
        else (getKey (stateKey tenantId userId) r).1.bind (fun reported =>
          .ok ⟨userId, if reported = some "IDLE" then .idle else .online, connections⟩)), r) := by
  have hcount : (countMembers (key tenantId userId) r).2 = r := by
    unfold countMembers
    split <;> rfl
  have hget : (getKey (stateKey tenantId userId) r).2 = r := by
    unfold getKey
    split <;> rfl
  simp only [getPresence, Prog.bind_eq, command]
  rw [Prog.run_bind, Prog.run_atomic, attempt_up _ hup]
  generalize countMembers (key tenantId userId) r = counted at hcount ⊢
  obtain ⟨n | n, r'⟩ := counted
  · exact Prod.ext rfl hcount
  obtain rfl : r' = r := hcount
  simp only [Except.bind]
  split
  · rfl
  rw [Prog.run_bind, Prog.run_atomic, attempt_up _ hup]
  generalize getKey (stateKey tenantId userId) r' = got at hget ⊢
  obtain ⟨reported | reported, r''⟩ := got
  · exact Prod.ext rfl hget
  · exact Prod.ext rfl hget

/-- `get_presence` reports OFFLINE exactly if the set is empty. -/
theorem getPresence_offline (hup : r.faults = []) (h : HoldsSet (key tenantId userId) r) :
    ((getPresence tenantId userId).run r).1 = .ok ⟨userId, .offline, 0⟩ ↔
      ∀ y, y ∉ members (key tenantId userId) r := by
  rw [← List.eq_nil_iff_forall_not_mem, ← List.length_eq_zero_iff, getPresence_run _ _ hup,
    countMembers_spec h]
  simp only [Except.bind]
  split
  · rename_i hzero
    simp [hzero]
  · rename_i hpos
    refine iff_of_false (fun hoff => ?_) hpos
    -- a report made after the second command carries the count, which is not 0
    split at hoff
    · nomatch hoff
    · simp only [Except.ok.injEq, Report.mk.injEq] at hoff
      exact hpos hoff.2.2

theorem present_start (hup : r.faults = [])
    (hempty : Timed.live r.now (r.presence (key tenantId userId)) = none) :
    Present (key tenantId userId) ids (presenceTasks r ids) := by
  refine ⟨hup, fun s => by simp [presenceTasks, hempty], ?_, fun y => ?_, fun x y hx => ?_⟩
  · simp [presenceTasks, Function.comp_def, LifeStage.conn]
  · simp [presenceTasks, members, hempty]
  · simp [presenceTasks] at hx

end Race

/-! ## 4. Presence -/

/-- **When presence is exact.**  Connections of one user with distinct ids come online and go
offline, their commands interleaved in any way.  If no connection executes its SADD while another
one is between the SCARD that returned 0 and its DEL, then `connection_offline` never returns True
while a connection is online, and when no call is in progress the presence set is the set of
connections online, so that `get_presence` reports OFFLINE exactly if there is none. -/
theorem presence_exact (env : Env) (httl : 0 < env.settings.presenceTtlSeconds)
    (tenantId userId : String) (r : Redis) (hup : r.faults = [])
    (hempty : Timed.live r.now (r.presence (key tenantId userId)) = none)
    (ids : List ConnId) (hnd : ids.Nodup) (sched : List Nat)
    (hsched : Along (Tasks.step (LifeStage.next env tenantId userId)) NotDeleting
      (presenceTasks r ids) sched) :
    let t := runAll (Tasks.step (LifeStage.next env tenantId userId)) (presenceTasks r ids) sched
    (presencePool env tenantId userId r ids).exec sched =
        t.toPool (LifeStage.prog env tenantId userId) ∧
      Along (Tasks.step (LifeStage.next env tenantId userId)) (fun t i =>
        TrueWhenNone t (t.step (LifeStage.next env tenantId userId) i)) (presenceTasks r ids) sched ∧
      ((∀ st ∈ t.stages, ¬ st.InProgress) →
        (∀ y, y ∈ members (key tenantId userId) t.state ↔ .online y ∈ t.stages) ∧
        (((getPresence tenantId userId).run t.state).1 = .ok ⟨userId, .offline, 0⟩ ↔
          ∀ y, .online y ∉ t.stages)) := by
  intro t
  obtain ⟨hexact, htrue⟩ := present_run httl hnd sched (present_start hup hempty) hsched
  refine ⟨?_, htrue, fun _ => ⟨hexact.online, ?_⟩⟩
  · have hpool : presencePool env tenantId userId r ids =
        (presenceTasks r ids).toPool (LifeStage.prog env tenantId userId) := by
      simp only [presencePool, presenceTasks, Tasks.toPool, List.map_map]
      rfl
    rw [hpool, Tasks.exec_pool (LifeStage.sound env tenantId userId)]
  · rw [getPresence_offline hexact.up hexact.holds]
    exact forall_congr' (fun y => not_congr (hexact.online y))

/-- Two connections of a user: one goes offline and finds nobody left, the other comes online before
the DEL.  The first call returns True, and the user is OFFLINE with a connection. -/
theorem sibling_deleted :
    let t := runAll (Tasks.step (LifeStage.next (.plain {}) "t" "u"))
      (presenceTasks {} ["x", "y"]) [0, 0, 0, 1, 0]
    (presencePool (.plain {}) "t" "u" {} ["x", "y"]).exec [0, 0, 0, 1, 0] =
        t.toPool (LifeStage.prog (.plain {}) "t" "u") ∧
      t.stages = [.gone "x" true, .online "y"] ∧ members (key "t" "u") t.state = [] ∧
      ((getPresence "t" "u").run t.state).1 = .ok ⟨"u", .offline, 0⟩ := by
  refine ⟨Tasks.exec_pool (LifeStage.sound (.plain {}) "t" "u") _ (presenceTasks {} ["x", "y"]), ?_⟩
  decide +kernel

/-- The second connection comes online before the first one has counted. -/
theorem sibling_counted :
    let t := runAll (Tasks.step (LifeStage.next (.plain {}) "t" "u"))
      (presenceTasks {} ["x", "y"]) [0, 0, 1, 0]
    t.stages = [.gone "x" false, .online "y"] ∧
      ∀ y, y ∈ members (key "t" "u") t.state ↔ .online y ∈ t.stages := by
  have h := presence_exact (.plain {}) (by decide) "t" "u" {} rfl rfl ["x", "y"] (by decide)
    [0, 0, 1, 0] (by decide +kernel)
  exact ⟨by decide +kernel, (h.2.2 (by decide +kernel)).1⟩

end Relay
