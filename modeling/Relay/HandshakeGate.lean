/-
# The gate of the handshakes

`handle_connection` runs the handshake inside `async with _handshake_semaphore`: from the wait for
the CONNECT frame to the CONNECTED frame, or to whatever ends the handshake before.  The limit on a
tenant's connections is compared and the connection registered in this block, with awaits between
the two (`Relay.Quota`).

`Gated` is a process with the crowd around its semaphore (`Relay.Lib.Semaphore`).  Every run of it
is a run of the handlers without the gate (`Gated.tasks_run`), but not the other way round:

* `handshake_gate`: no permit is lost, and handlers are let in in the order in which they came;
* `tenant_overshoot_bounded`: the limit of a tenant is exceeded by less than the number of permits;
* `gate_never_stuck`: from every state all handlers can get through.
-/
import Mathlib
import Relay.Lib.Semaphore
import Relay.Quota

namespace Relay

open Gateway Stages

/-! ## 1. The gate -/

/-- In the block of the semaphore. -/
def HandlerStage.inHandshake : HandlerStage → Bool
  | .refusing _ _ _ | .checking _ | .admitted _ _ _ | .adding _ _ | .announcing _ _ _ _ => true
  | .looking _ _ | .serving _ _ _ _ | .cleaning _ _ _ _ | .waiting _ | .ended _ => false

/-- A process with the semaphore; task `i` of the pool is `i` in the crowd. -/
structure Gated where
  tasks : Tasks Gateway GatewayTask
  crowd : Crowd Nat

namespace Gated

variable (env : Env)

/-- The stage of the handler that the task is. -/
def handler? (w : Gated) (i : Nat) : Option HandlerStage := w.tasks.stages[i]?.bind Sum.getLeft?

/-- The task runs one segment.  A handler that leaves the block in it gives its permit back. -/
def work (w : Gated) (i : Nat) : Gated :=
  let tasks := GatewayTask.step env w.tasks i
  let inside := (tasks.stages[i]?.bind Sum.getLeft?).any HandlerStage.inHandshake
  ⟨tasks, if i ∈ w.crowd.holding ∧ inside = false then w.crowd.leave i else w.crowd⟩

/-- A step of task `i`. -/
def step (w : Gated) (i : Nat) : Gated :=
  if (w.handler? i).isSome = true ∧ i ∉ w.crowd.arrived then { w with crowd := w.crowd.enter i }
  else if i ∈ w.crowd.sem.woken then { w with crowd := w.crowd.proceed i }
  else if i ∈ w.crowd.sem.asleep then w
  else w.work env i

/-- The handlers of these sockets and the other tasks, before a semaphore with `slots` permits. -/
def start (slots : Nat) (sockets : List (Socket × List Received))
    (others : List (Prog Gateway Exn Unit)) (g : Gateway) : Gated :=
  ⟨handshakeTasks sockets others g, { sem := .new slots }⟩

end Gated

/-! ## 2. A handler and its block -/

namespace HandlerStage

variable (env : Env)

/-- Who is on the way to `registry.add` is in the block. -/
theorem pending_outside {st : HandlerStage} (h : st.inHandshake = false) (tenantId : String) :
    st.pending tenantId = false := by
  cases st with
  | admitted c f k => cases h
  | adding p inputs => cases h
  | _ => rfl

theorem inHandshake_atCleanup (p : Peer) (outcome : Except Exn Unit) (q : Prog Gateway Exn Unit) :
    (atCleanup p outcome q).inHandshake = false := by
  cases q <;> rfl

theorem inHandshake_atBody (p : Peer) (rest : List Received) (q : Prog Gateway Exn Bool) :
    (atBody env p rest q).inHandshake = false := by
  cases q with
  | ret again =>
    cases again with
    | true => rfl
    | false => exact inHandshake_atCleanup p (.ok ()) (cleanupConnection env p)
  | raise e => exact inHandshake_atCleanup p (outcomeOf e) (cleanupConnection env p)
  | seg f k => rfl

/-- Nobody comes back into the block. -/
theorem inHandshake_next {st : HandlerStage} (h : st.inHandshake = false) (g : Gateway) :
    (st.next env g).2.inHandshake = false := by
  cases st with
  | looking p inputs =>
    simp only [next]
    split
    · cases inputs with
      | nil => rfl
      | cons input rest => exact inHandshake_atBody env p rest _
    · exact inHandshake_atCleanup p _ _
  | serving p f k rest => exact inHandshake_atBody env p rest _
  | cleaning p f k outcome => exact inHandshake_atCleanup p outcome _
  | waiting p => rfl
  | ended outcome => rfl
  | _ => cases h

/-- The handler leaves the block, if it goes on running. -/
inductive Departs : HandlerStage → Gateway → Prop
  | outside {st : HandlerStage} {g : Gateway} (h : st.inHandshake = false) : Departs st g
  | next {st : HandlerStage} {g : Gateway} (h : Departs (st.next env g).2 (st.next env g).1) :
      Departs st g

variable {env}

/-- The way from `registry.add` to the CONNECTED frame ends. -/
theorem departs_atAnnounce (p : Peer) (inputs : List Received) (q : Prog Gateway Exn Unit) :
    ∀ g, Departs env (atAnnounce p inputs q) g := by
  induction q with
  | ret u => exact fun g => .outside rfl
  | raise e => exact fun g => .outside rfl
  | seg f k ih => exact fun g => .next (ih g (f g))

/-- So does the way from the comparison to `registry.add`. -/
theorem departs_atResolve (c : Client) (q : Prog Gateway Exn String) :
    ∀ g, Departs env (atResolve env c q) g := by
  induction q with
  | ret sessionId => exact fun g => .next (departs_atAnnounce _ _ _ _)
  | raise e => exact fun g => .outside rfl
  | seg f k ih => exact fun g => .next (ih g (f g))

theorem departs_refusing (x : ConnId) (code : ErrorCode) (message : String) (g : Gateway) :
    Departs env (refusing x code message) g := by
  refine .next (.outside ?_)
  simp only [next, Stages.settle]
  split <;> rfl

/-- **Every handshake ends**, whatever state it is in and whatever the others have done. -/
theorem departs (st : HandlerStage) (g : Gateway) : Departs env st g := by
  cases st with
  | refusing x code message => exact departs_refusing x code message g
  | checking c =>
    refine .next ?_
    simp only [next]
    split
    · exact departs_refusing _ _ _ g
    · exact departs_atResolve c _ g
  | admitted c f k => exact departs_atResolve c (.seg f k) g
  | adding p inputs => exact .next (departs_atAnnounce p inputs _ _)
  | announcing p f k inputs => exact departs_atAnnounce p inputs (.seg f k) g
  | _ => exact .outside rfl

end HandlerStage

/-! ## 3. What a step does -/

namespace Gated

variable {env : Env} {slots : Nat} {w : Gated} {i j : Nat} {st : HandlerStage}

theorem handler?_eq : w.handler? i = some st ↔ w.tasks.stages[i]? = some (.inl st) := by
  unfold handler?
  cases w.tasks.stages[i]? with
  | none => simp
  | some o =>
    cases o with
    | inl st' => simp
    | inr q => simp

/-- The tasks after a segment of task `i`. -/
theorem stages_step (t : Tasks Gateway GatewayTask) (i j : Nat) :
    (GatewayTask.step env t i).stages[j]? =
      if j = i then t.stages[i]?.map (fun o => (besideNext (HandlerStage.next env) o t.state).2)
      else t.stages[j]? := by
  rcases Tasks.step_cases (besideNext (HandlerStage.next env)) t i with
    ⟨hnone, hsame⟩ | ⟨before, o, after, -, hi, -⟩
  · rw [GatewayTask.step, hsame, hnone, Option.map_none]
    split
    · rename_i hj
      rw [hj, hnone]
    · rfl
  · have hlt := (List.getElem?_eq_some_iff.mp hi).1
    simp only [GatewayTask.step, Tasks.step, hi, List.getElem?_set, hlt, Option.map_some, if_true,
      eq_comm (a := i)]

/-- The handlers after a segment of task `i`. -/
theorem handler?_work : (w.work env i).handler? j =
    if j = i then (w.handler? i).map (fun st => (st.next env w.tasks.state).2)
    else w.handler? j := by
  have hstages : (w.work env i).handler? j =
      ((GatewayTask.step env w.tasks i).stages[j]?).bind Sum.getLeft? := rfl
  rw [hstages, stages_step]
  split
  · unfold handler?
    cases w.tasks.stages[i]? with
    | none => rfl
    | some o =>
      cases o with
      | inl st => rfl
      | inr q => cases q <;> rfl
  · rfl

theorem isSome_work : ((w.work env i).handler? j).isSome = (w.handler? j).isSome := by
  rw [handler?_work]
  split
  · rename_i hj
    rw [Option.isSome_map, hj]
  · rfl

theorem handler?_work_self (hst : w.handler? i = some st) :
    (w.work env i).handler? i = some (st.next env w.tasks.state).2 := by
  rw [handler?_work, if_pos rfl, hst]
  rfl

/-- Nobody who waits, and no handler that has yet to come. -/
def AtWork (w : Gated) (i : Nat) : Prop :=
  ((w.handler? i).isSome = true → i ∈ w.crowd.arrived) ∧ i ∉ w.crowd.sem.woken ∧
    i ∉ w.crowd.sem.asleep

/-- A step is that of a handler that comes, of one that was woken, nothing, or a segment. -/
theorem step_cases (env : Env) (w : Gated) (i : Nat) :
    ((w.handler? i).isSome = true ∧ i ∉ w.crowd.arrived ∧
        w.step env i = { w with crowd := w.crowd.enter i }) ∨
      (i ∈ w.crowd.sem.woken ∧ w.step env i = { w with crowd := w.crowd.proceed i }) ∨
      w.step env i = w ∨ (w.AtWork i ∧ w.step env i = w.work env i) := by
  unfold step
  split
  · exact Or.inl ⟨‹_ ∧ _›.1, ‹_ ∧ _›.2, rfl⟩
  · rename_i hold
    split
    · exact Or.inr (Or.inl ⟨‹_›, rfl⟩)
    · split
      · exact Or.inr (Or.inr (Or.inl rfl))
      · refine Or.inr (Or.inr (Or.inr ⟨⟨fun hs => ?_, ‹_›, ‹_›⟩, rfl⟩))
        by_contra hmem
        exact hold ⟨hs, hmem⟩

/-- What holds between two steps: the crowd is orderly, only handlers are in it, who is through has
left the block, and only who holds a permit is on the way to `registry.add`. -/
structure Fits (slots : Nat) (w : Gated) : Prop where
  orderly : w.crowd.Orderly slots
  handlers : ∀ i ∈ w.crowd.arrived, (w.handler? i).isSome = true
  past : ∀ i st, w.handler? i = some st → i ∈ w.crowd.arrived → i ∉ w.crowd.present →
    st.inHandshake = false
  outside : ∀ i st, w.handler? i = some st → i ∉ w.crowd.holding →
    ∀ tenantId, st.pending tenantId = false

theorem holding_subset_present (c : Crowd Nat) : c.holding ⊆ c.present :=
  List.subset_append_right _ _

/-- A handler calls `acquire()`. -/
theorem Fits.enter (h : w.Fits slots) (hi : (w.handler? i).isSome = true)
    (hnew : i ∉ w.crowd.arrived) : ({ w with crowd := w.crowd.enter i } : Gated).Fits slots := by
  refine ⟨h.orderly.enter hnew, fun j hj => ?_, fun j st hst hj hp => ?_, fun j st hst hj => ?_⟩
  · rcases List.mem_append.mp hj with hj | hj
    · exact h.handlers j hj
    · rw [List.mem_singleton.mp hj]
      exact hi
  · have hp : j ∉ (w.crowd.enter i).present := hp
    rw [Crowd.mem_present_enter, not_or] at hp
    have hj : j ∈ w.crowd.arrived := (List.mem_append.mp hj).resolve_right
      (fun hj => hp.2 (List.mem_singleton.mp hj))
    exact h.past j st hst hj hp.1
  · exact h.outside j st hst (fun hmem => hj (Crowd.holding_subset_enter i hmem))

/-- A handler gets its permit. -/
theorem Fits.proceed (h : w.Fits slots) (hi : i ∈ w.crowd.sem.woken) :
    ({ w with crowd := w.crowd.proceed i } : Gated).Fits slots := by
  refine ⟨h.orderly.proceed hi, h.handlers, fun j st hst hj hp => ?_, fun j st hst hj => ?_⟩
  · exact h.past j st hst hj (fun hmem => hp ((Crowd.present_proceed hi).mem_iff.mpr hmem))
  · exact h.outside j st hst (fun hmem => hj (List.mem_append_left _ hmem))

/-- The crowd after a segment of a task: nobody else moves, and a handler that does not hold a
permit afterwards is outside of the block, if it was there before or held one. -/
theorem Fits.crowd_work (env : Env) (h : w.Fits slots) (i : Nat) :
    (w.work env i).crowd.Orderly slots ∧ (w.work env i).crowd.arrived = w.crowd.arrived ∧
      (w.work env i).crowd.present ⊆ w.crowd.present ∧
      (∀ j ≠ i, (j ∈ w.crowd.present → j ∈ (w.work env i).crowd.present) ∧
        (j ∈ w.crowd.holding → j ∈ (w.work env i).crowd.holding)) ∧
      (i ∈ w.crowd.holding → ((w.work env i).handler? i).any HandlerStage.inHandshake = false →
        i ∉ (w.work env i).crowd.present) ∧
      (((w.work env i).handler? i).any HandlerStage.inHandshake = true ∨ i ∉ w.crowd.holding →
        (w.work env i).crowd = w.crowd) := by
  by_cases hleft : i ∈ w.crowd.holding ∧
      ((w.work env i).handler? i).any HandlerStage.inHandshake = false
  · have hcrowd : (w.work env i).crowd = w.crowd.leave i := if_pos hleft
    have hpresent := fun j => h.orderly.mem_present_leave (u := j) hleft.1
    rw [hcrowd]
    refine ⟨h.orderly.leave hleft.1, rfl, fun j hj => ((hpresent j).mp hj).1, fun j hne => ⟨fun hj =>
      (hpresent j).mpr ⟨hj, hne⟩, (List.mem_erase_of_ne hne).mpr⟩, fun _ _ hi =>
        ((hpresent i).mp hi).2 rfl, ?_⟩
    rintro (hin | hnot)
    · rw [hleft.2] at hin
      cases hin
    · exact absurd hleft.1 hnot
  · have hcrowd : (w.work env i).crowd = w.crowd := if_neg hleft
    rw [hcrowd]
    exact ⟨h.orderly, rfl, List.Subset.refl _, fun _ _ => ⟨id, id⟩,
      fun hi hout => absurd ⟨hi, hout⟩ hleft, fun _ => rfl⟩

/-- Who is at work without a permit is outside of the block. -/
theorem Fits.out (h : w.Fits slots) (hi : w.AtWork i) (hst : w.handler? i = some st)
    (hnot : i ∉ w.crowd.holding) : st.inHandshake = false := by
  refine h.past i st hst (hi.1 (by rw [hst]; rfl)) ?_
  simp only [Crowd.present, List.mem_append, not_or]
  exact ⟨hi.2, hnot⟩

/-- A task runs one segment. -/
theorem Fits.work (h : w.Fits slots) (hi : w.AtWork i) : (w.work env i).Fits slots := by
  obtain ⟨horderly, harrived, -, hothers, -, hkeeps⟩ := h.crowd_work env i
  have hother : ∀ {j : Nat}, j ≠ i → (w.work env i).handler? j = w.handler? j := fun hne => by
    rw [handler?_work, if_neg hne]
  -- without a permit it is outside: it has just left the block, or was through before
  have hout : ∀ st', (w.work env i).handler? i = some st' → i ∉ (w.work env i).crowd.holding →
      st'.inHandshake = false := by
    intro st' hst' hnot
    by_contra hin
    have hsame : (w.work env i).crowd = w.crowd := hkeeps (Or.inl (by rw [hst']; simpa using hin))
    rw [hsame] at hnot
    rw [handler?_work, if_pos rfl] at hst'
    obtain ⟨st, hst, rfl⟩ := Option.map_eq_some_iff.mp hst'
    exact hin (HandlerStage.inHandshake_next env (h.out hi hst hnot) _)
  refine ⟨horderly, fun j hj => ?_, fun j st hst hj hp => ?_, fun j st hst hj => ?_⟩
  · rw [isSome_work]
    exact h.handlers j (harrived ▸ hj)
  · rcases eq_or_ne j i with rfl | hne
    · exact hout st hst (fun hmem => hp (holding_subset_present _ hmem))
    · exact h.past j st (hother hne ▸ hst) (harrived ▸ hj) (fun hmem => hp ((hothers j hne).1 hmem))
  · rcases eq_or_ne j i with rfl | hne
    · exact HandlerStage.pending_outside (hout st hst hj)
    · exact h.outside j st (hother hne ▸ hst) (fun hmem => hj ((hothers j hne).2 hmem))

/-- **One step.** -/
theorem Fits.step (h : w.Fits slots) (i : Nat) : (w.step env i).Fits slots := by
  rcases step_cases env w i with ⟨hi, hnew, heq⟩ | ⟨hi, heq⟩ | heq | ⟨hi, heq⟩ <;> rw [heq]
  · exact h.enter hi hnew
  · exact h.proceed hi
  · exact h
  · exact h.work hi

theorem fits_start (slots : Nat) (sockets : List (Socket × List Received))
    (others : List (Prog Gateway Exn Unit)) (g : Gateway) :
    (start slots sockets others g).Fits slots := by
  refine ⟨Crowd.orderly_new slots, fun i hi => absurd hi List.not_mem_nil,
    fun i st _ hi => absurd hi List.not_mem_nil, fun i st hst _ tenantId => ?_⟩
  rcases List.mem_append.mp (List.mem_of_getElem? (handler?_eq.mp hst)) with ho | ho
  · obtain ⟨s, -, hs⟩ := List.mem_map.mp ho
    obtain rfl := Sum.inl.inj hs
    exact (HandlerStage.modest_start s.1 s.2).2 tenantId
  · obtain ⟨q, -, hq⟩ := List.mem_map.mp ho
    cases hq

/-- **A run.** -/
theorem Fits.run (h : w.Fits slots) (sched : List Nat) :
    (runAll (Gated.step env) w sched).Fits slots :=
  @runAll_invariant' _ _ (Gated.step env) (fun w => w.Fits slots) (fun _ i hw => hw.step i) sched w
    h

/-- **With the gate, the tasks run as they may without it.** -/
theorem tasks_run (env : Env) : ∀ (sched : List Nat) (w : Gated), ∃ sched', sched'.Sublist sched ∧
    (runAll (step env) w sched).tasks = runAll (GatewayTask.step env) w.tasks sched'
  | [], w => ⟨[], List.Sublist.refl _, rfl⟩
  | i :: sched, w => by
    obtain ⟨sched', hsub, hrun⟩ := tasks_run env sched (w.step env i)
    rw [runAll_cons, hrun]
    rcases step_cases env w i with ⟨-, -, heq⟩ | ⟨-, heq⟩ | heq | ⟨-, heq⟩ <;> rw [heq]
    · exact ⟨sched', hsub.cons i, rfl⟩
    · exact ⟨sched', hsub.cons i, rfl⟩
    · exact ⟨sched', hsub.cons i, rfl⟩
    · exact ⟨i :: sched', hsub.cons_cons i, rfl⟩

end Gated

/-- **The gate.**  For any sockets and other tasks and every interleaving: the permits that are
free, on their way to a handler and in use are always all there are.  A handler in its block waits
for a permit or has one.  Who sleeps came after everybody who does not.  And who sleeps although a
permit is free has somebody before it who is about to run. -/
theorem handshake_gate (env : Env) (slots : Nat) (sockets : List (Socket × List Received))
    (others : List (Prog Gateway Exn Unit)) (g : Gateway) (sched : List Nat) :
    let w := runAll (Gated.step env) (Gated.start slots sockets others g) sched
    w.crowd.sem.value + w.crowd.sem.woken.length + w.crowd.holding.length = slots ∧
      (∀ i st, w.handler? i = some st → i ∈ w.crowd.arrived → st.inHandshake = true →
        i ∈ w.crowd.sem.woken ∨ i ∈ w.crowd.sem.asleep ∨ i ∈ w.crowd.holding) ∧
      w.crowd.sem.asleep <:+ w.crowd.arrived ∧
      (0 < w.crowd.sem.value → w.crowd.sem.asleep ≠ [] → w.crowd.sem.woken ≠ []) := by
  intro w
  have hfits : w.Fits slots := (Gated.fits_start slots sockets others g).run sched
  refine ⟨hfits.orderly.permits, fun i st hst hi hin => ?_, hfits.orderly.fifo, w.crowd.sem.alert⟩
  by_contra hnot
  have hout : st.inHandshake = false := by
    refine hfits.past i st hst hi ?_
    simp only [Crowd.present, List.mem_append]
    tauto
  rw [hout] at hin
  cases hin

/-! ## 4. The limit of a tenant -/

/-- Who is counted is in the list. -/
theorem countP_le_of_places {α : Type} {l : List α} {p : α → Bool} {places : List Nat}
    (h : ∀ i a, l[i]? = some a → p a = true → i ∈ places) : l.countP p ≤ places.length := by
  have hcount : l.countP p = ((l.zipIdx.filter (fun x => p x.1)).map Prod.snd).length := by
    rw [List.length_map, ← List.countP_eq_length_filter]
    conv_lhs => rw [← List.zipIdx_map_fst 0 l, List.countP_map]
    rfl
  have hnodup : ((l.zipIdx.filter (fun x => p x.1)).map Prod.snd).Nodup := by
    refine (List.filter_sublist.map Prod.snd).nodup ?_
    rw [List.zipIdx_map_snd]
    exact List.nodup_range'
  rw [hcount]
  refine (List.subperm_of_subset hnodup (fun i hi => ?_)).length_le
  obtain ⟨⟨a, k⟩, hmem, rfl⟩ := List.mem_map.mp hi
  obtain ⟨hzip, hp⟩ := List.mem_filter.mp hmem
  exact h k a (List.mem_zipIdx_iff_getElem?.mp hzip) hp

namespace Gated

variable {env : Env} {slots : Nat} {w : Gated} {i : Nat}

/-- Who is on the way to `registry.add` holds a permit. -/
theorem Fits.pending_holds (h : w.Fits slots) {o : GatewayTask} (hi : w.tasks.stages[i]? = some o)
    {tenantId : String} (hp : GatewayTask.pending tenantId o = true) : i ∈ w.crowd.holding := by
  cases o with
  | inr q => cases hp
  | inl st =>
    by_contra hnot
    have hp : st.pending tenantId = true := hp
    rw [h.outside i st (handler?_eq.mpr hi) hnot tenantId] at hp
    cases hp

/-- A handshake that passes the comparison is the only one, of those with a permit, that is not
pending yet. -/
theorem Fits.room (h : w.Fits slots) {o : GatewayTask} (hi : w.tasks.stages[i]? = some o)
    (hwork : w.AtWork i) {tenantId : String}
    (hp : GatewayTask.passes env w.tasks.state tenantId o = true) :
    w.tasks.state.node.registry.tenantConnectionCount tenantId + pendingHandshakes w.tasks tenantId
      < env.settings.maxConnectionsPerTenant + (slots - 1) := by
  match o with
  | .inl (.checking c) =>
    obtain ⟨hc, hfull⟩ : c.tenantId = tenantId ∧ c.full env w.tasks.state = false := by
      simpa [GatewayTask.passes, HandlerStage.passes] using hp
    have hst : w.handler? i = some (.checking c) := handler?_eq.mpr hi
    -- it is in its block, and so it holds a permit
    have hholding : i ∈ w.crowd.holding := by
      by_contra hnot
      cases h.out hwork hst hnot
    have hpending : pendingHandshakes w.tasks tenantId ≤ (w.crowd.holding.erase i).length := by
      refine countP_le_of_places (fun j o' hj hpend => ?_)
      rcases eq_or_ne j i with rfl | hne
      · rw [hi] at hj
        obtain rfl := Option.some.inj hj
        cases hpend
      · exact (List.mem_erase_of_ne hne).mpr (h.pending_holds hj hpend)
    have hpos := List.length_pos_of_mem hholding
    have hpermits := h.orderly.permits
    have hlt : w.tasks.state.node.registry.tenantConnectionCount tenantId
        < env.settings.maxConnectionsPerTenant := by
      rw [← hc]
      exact Nat.lt_of_not_le (of_decide_eq_false hfull)
    rw [List.length_erase_of_mem hholding] at hpending
    omega

/-- The connections of a tenant and its pending handshakes. -/
structure Bounded (env : Env) (slots : Nat) (w : Gated) : Prop where
  fits : w.Fits slots
  modest : ∀ o ∈ w.tasks.stages, GatewayTask.Modest o
  count : ∀ tenantId, w.tasks.state.node.registry.tenantConnectionCount tenantId
    + pendingHandshakes w.tasks tenantId ≤ env.settings.maxConnectionsPerTenant + (slots - 1)

theorem Bounded.step (h : w.Bounded env slots) (i : Nat) : (w.step env i).Bounded env slots := by
  have hfits : (w.step env i).Fits slots := h.fits.step i
  have hstill : (w.step env i).tasks = w.tasks → (w.step env i).Bounded env slots := fun hsame =>
    ⟨hfits, by rw [hsame]; exact h.modest, by rw [hsame]; exact h.count⟩
  rcases step_cases env w i with ⟨-, -, heq⟩ | ⟨-, heq⟩ | heq | ⟨hwork, hstep⟩
  · exact hstill (by rw [heq])
  · exact hstill (by rw [heq])
  · exact hstill (by rw [heq])
  rcases Tasks.step_cases (besideNext (HandlerStage.next env)) w.tasks i with
    ⟨-, hnone⟩ | ⟨before, o, after, hstages, hi, hone⟩
  · exact hstill ((congrArg tasks hstep).trans hnone)
  · have hmodest := h.modest
    rw [hstages] at hmodest
    simp only [List.forall_mem_append, List.forall_mem_cons] at hmodest
    obtain ⟨hbefore, ho, hafter⟩ := hmodest
    obtain ⟨hnext, hcount⟩ := GatewayTask.Modest.next env w.tasks.state ho
    have htasks : (w.step env i).tasks =
        ⟨(besideNext (HandlerStage.next env) o w.tasks.state).1,
          before ++ (besideNext (HandlerStage.next env) o w.tasks.state).2 :: after⟩ :=
      (congrArg tasks hstep).trans hone
    refine ⟨hfits, ?_, fun tenantId => ?_⟩
    · rw [htasks]
      simpa only [List.forall_mem_append, List.forall_mem_cons] using ⟨hbefore, hnext, hafter⟩
    · have hold := h.count tenantId
      have hc := hcount tenantId
      have hroom := @Fits.room env slots w i h.fits o hi hwork tenantId
      rw [htasks]
      simp only [pendingHandshakes, hstages, countP_around] at hold hroom ⊢
      cases hp : GatewayTask.passes env w.tasks.state tenantId o with
      | false =>
        rw [hp, Bool.toNat_false] at hc
        omega
      | true =>
        have := hroom hp
        rw [hp, Bool.toNat_true] at hc
        omega

end Gated

/-- **The limit of a tenant is exceeded by less than the number of permits.**  For every limit, any
handlers, and every interleaving of them with each other and with tasks that register nothing.
Without the gate there is no bound but the number of handlers. -/
theorem tenant_overshoot_bounded (env : Env) (slots : Nat)
    (sockets : List (Socket × List Received)) (others : List (Prog Gateway Exn Unit))
    (hothers : ∀ q ∈ others, q.Keeps (fun _ => True) NoMore) (g : Gateway)
    (hstart : ∀ tenantId, g.node.registry.tenantConnectionCount tenantId
      ≤ env.settings.maxConnectionsPerTenant) (sched : List Nat) :
    let w := runAll (Gated.step env) (Gated.start slots sockets others g) sched
    (∃ sched', sched'.Sublist sched ∧
      w.tasks.toPool (GatewayTask.prog env) = (handshakePool env sockets others g).exec sched') ∧
      ∀ tenantId, w.tasks.state.node.registry.tenantConnectionCount tenantId
        ≤ env.settings.maxConnectionsPerTenant + (slots - 1) := by
  intro w
  have hinit : (Gated.start slots sockets others g).Bounded env slots := by
    have hfits := Gated.fits_start slots sockets others g
    refine ⟨hfits, fun o ho => ?_, fun tenantId => ?_⟩
    · rcases List.mem_append.mp ho with ho | ho
      · obtain ⟨s, -, rfl⟩ := List.mem_map.mp ho
        exact (HandlerStage.modest_start s.1 s.2).1
      · obtain ⟨q, hq, rfl⟩ := List.mem_map.mp ho
        exact hothers q hq
    · have hnone : pendingHandshakes (Gated.start slots sockets others g).tasks tenantId ≤ 0 :=
        @countP_le_of_places _ _ _ [] (fun _ _ hi hp => hfits.pending_holds hi hp)
      have hle : (Gated.start slots sockets others g).tasks.state.node.registry.tenantConnectionCount
        tenantId ≤ env.settings.maxConnectionsPerTenant := hstart tenantId
      omega
  have hend : w.Bounded env slots := @runAll_invariant' _ _ (Gated.step env)
    (fun w => w.Bounded env slots) (fun _ i hw => hw.step i) sched _ hinit
  refine ⟨?_, fun tenantId => (Nat.le_add_right _ _).trans (hend.count tenantId)⟩
  obtain ⟨sched', hsub, hrun⟩ := Gated.tasks_run env sched (Gated.start slots sockets others g)
  refine ⟨sched', hsub, ?_⟩
  rw [← handshakeTasks_toPool, GatewayTask.exec_pool]
  exact congrArg (Tasks.toPool (GatewayTask.prog env)) hrun

/-- Two handshakes with two permits: a limit of one is exceeded by one. -/
theorem tenant_overshoot_pair :
    let env : Env := .plain { maxConnectionsPerTenant := 1 }
    let w := runAll (Gated.step env) (Gated.start 2 socketPair [] ⟨{}, {}⟩)
      [0, 1, 0, 1, 0, 0, 0, 1, 1, 1]
    w.tasks.state.node.registry.tenantConnectionCount "t" = 2 ∧
      w.tasks.state.node.registry.tenantConnectionCount "t" ≤ 1 + (2 - 1) :=
  ⟨by decide +kernel, (tenant_overshoot_bounded (.plain { maxConnectionsPerTenant := 1 }) 2
    socketPair [] (fun q hq => absurd hq List.not_mem_nil) ⟨{}, {}⟩ (fun _ => Nat.zero_le _)
    [0, 1, 0, 1, 0, 0, 0, 1, 1, 1]).2 "t"⟩

/-! ## 5. Getting through -/

namespace Gated

variable {env : Env} {slots : Nat} {w : Gated} {i j : Nat} {st : HandlerStage}

/-- The handler has been in its block and has left it. -/
def Through (w : Gated) (i : Nat) : Prop := i ∈ w.crowd.arrived ∧ i ∉ w.crowd.present

instance (w : Gated) (i : Nat) : Decidable (w.Through i) := inferInstanceAs (Decidable (_ ∧ _))

theorem isSome_step (w : Gated) (i j : Nat) :
    ((w.step env i).handler? j).isSome = (w.handler? j).isSome := by
  rcases step_cases env w i with ⟨-, -, heq⟩ | ⟨-, heq⟩ | heq | ⟨-, heq⟩ <;> rw [heq]
  · rfl
  · rfl
  · exact isSome_work

/-- Who is through stays so. -/
theorem Through.step (h : w.Fits slots) (hj : w.Through j) (i : Nat) :
    (w.step env i).Through j := by
  rcases step_cases env w i with ⟨-, hnew, heq⟩ | ⟨hwoken, heq⟩ | heq | ⟨-, heq⟩ <;> rw [heq]
  · refine ⟨List.mem_append_left _ hj.1, fun hmem => ?_⟩
    rcases Crowd.mem_present_enter.mp hmem with hmem | rfl
    · exact hj.2 hmem
    · exact hnew hj.1
  · exact ⟨hj.1, fun hmem => hj.2 ((Crowd.present_proceed hwoken).mem_iff.mp hmem)⟩
  · exact hj
  · obtain ⟨-, harrived, hpresent, -⟩ := h.crowd_work env i
    exact ⟨harrived ▸ hj.1, fun hmem => hj.2 (hpresent hmem)⟩

theorem Through.run (h : w.Fits slots) (hj : w.Through j) (sched : List Nat) :
    (runAll (Gated.step env) w sched).Through j := by
  have hboth := @runAll_invariant' _ _ (Gated.step env) (fun w => w.Fits slots ∧ w.Through j)
    (fun w i hw => ⟨hw.1.step i, hw.2.step hw.1 i⟩) sched w ⟨h, hj⟩
  exact hboth.2

/-- Who holds a permit is at work. -/
theorem Fits.step_holding (h : w.Fits slots) (hi : i ∈ w.crowd.holding) :
    w.step env i = w.work env i := by
  have hpresent : i ∈ w.crowd.present := holding_subset_present _ hi
  have honce := h.orderly.once
  have hqueue : i ∉ w.crowd.sem.woken ++ w.crowd.sem.asleep := fun hmem =>
    (List.nodup_append.mp honce).2.2 i hmem i hi rfl
  rw [List.mem_append, not_or] at hqueue
  unfold Gated.step
  rw [if_neg (fun hnew => hnew.2 (h.orderly.known hpresent)), if_neg hqueue.1, if_neg hqueue.2]

/-- A segment that ends outside of the block gives the permit back. -/
theorem Fits.step_through (h : w.Fits slots) (hi : i ∈ w.crowd.holding)
    (hst : w.handler? i = some st) (hout : (st.next env w.tasks.state).2.inHandshake = false) :
    (w.step env i).Through i := by
  obtain ⟨-, harrived, -, -, hleaves, -⟩ := h.crowd_work env i
  rw [h.step_holding hi]
  refine ⟨harrived ▸ h.orderly.known (holding_subset_present _ hi), hleaves hi ?_⟩
  rw [handler?_work_self hst]
  exact hout

/-- **A handler with a permit gets through**, if it goes on running. -/
theorem Fits.run_out {g : Gateway} (hdeparts : HandlerStage.Departs env st g) : ∀ {w : Gated},
    w.Fits slots → i ∈ w.crowd.holding → w.handler? i = some st → w.tasks.state = g →
    ∃ sched, (runAll (Gated.step env) w sched).Through i := by
  induction hdeparts with
  | outside hout =>
    rintro w h hi hst rfl
    exact ⟨[i], h.step_through hi hst (HandlerStage.inHandshake_next env hout _)⟩
  | @next st g _ ih =>
    rintro w h hi hst rfl
    have hnext : (w.work env i).handler? i = some (st.next env w.tasks.state).2 :=
      handler?_work_self hst
    cases hin : (st.next env w.tasks.state).2.inHandshake with
    | false => exact ⟨[i], h.step_through hi hst hin⟩
    | true =>
      have hcrowd : (w.work env i).crowd = w.crowd :=
        (h.crowd_work env i).2.2.2.2.2 (Or.inl (by rw [hnext]; exact hin))
      have hstate : (w.work env i).tasks.state = (st.next env w.tasks.state).1 := by
        have hwork : (w.work env i).tasks = GatewayTask.step env w.tasks i := rfl
        rw [hwork, GatewayTask.step, Tasks.step, handler?_eq.mp hst]
        rfl
      have hfits : (w.step env i).Fits slots := h.step i
      rw [h.step_holding hi] at hfits
      obtain ⟨sched, hsched⟩ := ih hfits (by rw [hcrowd]; exact hi) hnext hstate
      refine ⟨i :: sched, ?_⟩
      rw [runAll_cons, h.step_holding hi]
      exact hsched

theorem Fits.holder_leaves (h : w.Fits slots) (hi : i ∈ w.crowd.holding) :
    ∃ sched, (runAll (Gated.step env) w sched).Through i := by
  have hsome := h.handlers i (h.orderly.known (holding_subset_present _ hi))
  obtain ⟨st, hst⟩ := Option.isSome_iff_exists.mp hsome
  exact Fits.run_out (st.departs w.tasks.state) h hi hst rfl

/-- **Somebody gets through**, if not everybody is. -/
theorem Fits.progress (env : Env) (h : w.Fits slots) (hslots : 0 < slots)
    (hi : (w.handler? i).isSome = true) (hnot : ¬ w.Through i) :
    ∃ j sched, (w.handler? j).isSome = true ∧ ¬ w.Through j ∧
      (runAll (Gated.step env) w sched).Through j := by
  have hthere : ∀ {j : Nat}, j ∈ w.crowd.present →
      (w.handler? j).isSome = true ∧ ¬ w.Through j := fun hj =>
    ⟨h.handlers _ (h.orderly.known hj), fun hthrough => hthrough.2 hj⟩
  -- who holds a permit after one step leaves with the next ones
  have hthen : ∀ {j : Nat}, j ∈ (w.step env j).crowd.holding →
      ∃ sched, (runAll (Gated.step env) w sched).Through j := fun {j} hj => by
    obtain ⟨sched, hsched⟩ := (h.step j).holder_leaves hj
    exact ⟨j :: sched, hsched⟩
  by_cases hholding : w.crowd.holding = []
  · by_cases hwoken : w.crowd.sem.woken = []
    · -- nobody is in: the gate is open, and who is not through has yet to come
      obtain ⟨hasleep, hvalue⟩ := h.orderly.not_stuck hslots hholding hwoken
      have hnew : i ∉ w.crowd.arrived := by
        intro hmem
        refine hnot ⟨hmem, ?_⟩
        rw [Crowd.present, hwoken, hasleep, hholding]
        exact List.not_mem_nil
      obtain ⟨sched, hsched⟩ := hthen (j := i) (by
        unfold Gated.step
        rw [if_pos ⟨hi, hnew⟩]
        exact Crowd.holding_enter hvalue hwoken hasleep)
      exact ⟨i, sched, hi, hnot, hsched⟩
    · obtain ⟨j, hj⟩ := List.exists_mem_of_ne_nil _ hwoken
      have hpresent : j ∈ w.crowd.present := List.mem_append_left _ (List.mem_append_left _ hj)
      obtain ⟨sched, hsched⟩ := hthen (j := j) (by
        unfold Gated.step
        rw [if_neg (fun hnew => hnew.2 (h.orderly.known hpresent)), if_pos hj]
        exact List.mem_append_right _ (List.mem_singleton_self j))
      exact ⟨j, sched, (hthere hpresent).1, (hthere hpresent).2, hsched⟩
  · obtain ⟨j, hj⟩ := List.exists_mem_of_ne_nil _ hholding
    have hpresent := hthere (holding_subset_present _ hj)
    obtain ⟨sched, hsched⟩ := h.holder_leaves hj
    exact ⟨j, sched, hpresent.1, hpresent.2, hsched⟩

/-- The handlers that have yet to get through. -/
def yet (bound : Nat) (w : Gated) : Finset Nat :=
  (Finset.range bound).filter (fun i => (w.handler? i).isSome = true ∧ ¬ w.Through i)

theorem isSome_run (sched : List Nat) (w : Gated) (j : Nat) :
    ((runAll (Gated.step env) w sched).handler? j).isSome = (w.handler? j).isSome :=
  @runAll_invariant' _ _ (Gated.step env)
    (fun w' => (w'.handler? j).isSome = (w.handler? j).isSome)
    (fun w' i hw' => (isSome_step w' i j).trans hw') sched w rfl

/-- Everybody gets through. -/
theorem Fits.all_through (env : Env) (hslots : 0 < slots) (bound : Nat) : ∀ (n : Nat) {w : Gated},
    w.Fits slots → (∀ i, (w.handler? i).isSome = true → i < bound) → (w.yet bound).card < n →
    ∃ sched, ∀ i, (w.handler? i).isSome = true → (runAll (Gated.step env) w sched).Through i := by
  intro n
  induction n with
  | zero => exact fun _ _ hcard => absurd hcard (Nat.not_lt_zero _)
  | succ n ih =>
    intro w h hbound hcard
    by_cases hall : ∀ i, (w.handler? i).isSome = true → w.Through i
    · exact ⟨[], hall⟩
    · obtain ⟨i, hi⟩ := not_forall.mp hall
      obtain ⟨hsome, hnot⟩ := Classical.not_imp.mp hi
      obtain ⟨j, sched, hjsome, hj, hthrough⟩ := h.progress env hslots hsome hnot
      -- one fewer is left, as nobody comes back
      have hlt : ((runAll (Gated.step env) w sched).yet bound).card < (w.yet bound).card := by
        refine Finset.card_lt_card (Finset.ssubset_iff_of_subset (fun k hk => ?_) |>.mpr
          ⟨j, ?_, fun hk => ?_⟩)
        · obtain ⟨hrange, hksome, hk⟩ := Finset.mem_filter.mp hk
          rw [isSome_run] at hksome
          exact Finset.mem_filter.mpr ⟨hrange, hksome, fun hold => hk (hold.run h sched)⟩
        · exact Finset.mem_filter.mpr ⟨Finset.mem_range.mpr (hbound j hjsome), hjsome, hj⟩
        · exact (Finset.mem_filter.mp hk).2.2 hthrough
      have hfits : (runAll (Gated.step env) w sched).Fits slots := h.run sched
      obtain ⟨more, hmore⟩ := ih hfits (fun k hk => hbound k (by rwa [isSome_run] at hk)) (by omega)
      refine ⟨sched ++ more, fun k hk => ?_⟩
      rw [runAll_append]
      exact hmore k (by rwa [isSome_run])

end Gated

/-- **The gate is never stuck.**  With at least one permit, every run of any handlers can be
continued so that all of them have been in their block and have left it, whatever has become of
their handshakes. -/
theorem gate_never_stuck (env : Env) (slots : Nat) (hslots : 0 < slots)
    (sockets : List (Socket × List Received)) (others : List (Prog Gateway Exn Unit)) (g : Gateway)
    (sched : List Nat) :
    ∃ more,
      let w := runAll (Gated.step env) (Gated.start slots sockets others g) (sched ++ more)
      ∀ i st, w.handler? i = some st →
        i ∈ w.crowd.arrived ∧ i ∉ w.crowd.present ∧ st.inHandshake = false := by
  let w₀ := runAll (Gated.step env) (Gated.start slots sockets others g) sched
  have hfits : w₀.Fits slots := (Gated.fits_start slots sockets others g).run sched
  have hbound : ∀ i, (w₀.handler? i).isSome = true →
      i < (handshakeTasks sockets others g).stages.length := by
    intro i hi
    rw [Gated.isSome_run] at hi
    obtain ⟨st, hst⟩ := Option.isSome_iff_exists.mp hi
    exact (List.getElem?_eq_some_iff.mp (Gated.handler?_eq.mp hst)).1
  obtain ⟨more, hmore⟩ := Gated.Fits.all_through env hslots _ _ hfits hbound (Nat.lt_succ_self _)
  refine ⟨more, ?_⟩
  rw [runAll_append]
  intro w i st hst
  have hsame : (w.handler? i).isSome = (w₀.handler? i).isSome := Gated.isSome_run more w₀ i
  obtain ⟨harrived, hpresent⟩ := hmore i (by rw [← hsame, hst]; rfl)
  exact ⟨harrived, hpresent, (hfits.run more).past i st hst harrived hpresent⟩

/-- One permit and two handlers, the second of which sleeps. -/
theorem gate_never_stuck_pair :
    (runAll (Gated.step (.plain {})) (Gated.start 1 socketPair [] ⟨{}, {}⟩) [0, 1]).crowd.sem.asleep
        = [1] ∧
      ∃ more,
        let w := runAll (Gated.step (.plain {})) (Gated.start 1 socketPair [] ⟨{}, {}⟩)
          ([0, 1] ++ more)
        ∀ i st, w.handler? i = some st →
          i ∈ w.crowd.arrived ∧ i ∉ w.crowd.present ∧ st.inHandshake = false :=
  ⟨by decide +kernel, gate_never_stuck (.plain {}) 1 (by decide) socketPair [] ⟨{}, {}⟩ [0, 1]⟩

end Relay
