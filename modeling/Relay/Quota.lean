/-
# The limit on a tenant's connections

`handle_connection` compares the tenant's connections with the limit, then awaits Redis for the
session, and only then calls `registry.add`.  A handshake that has passed the comparison and not
yet come to `registry.add` is not counted by the next one.

Every other step leaves the sum of registered connections and such handshakes as it is or lowers
it (`Budget`), so the limit is kept exactly as long as each comparison that passes would also have
passed with them counted.
-/
import Mathlib
import Relay.Lifecycle

namespace Relay

open Gateway Stages

/-! ## 1. Steps that add no connection -/

/-- No tenant has more connections than before. -/
def NoMore (g g' : Gateway) : Prop :=
  ∀ tenantId, g'.node.registry.tenantConnectionCount tenantId
    ≤ g.node.registry.tenantConnectionCount tenantId

theorem NoMore.refl (g : Gateway) : NoMore g g := fun _ => Nat.le_refl _

theorem noMore_of_byTenant {g g' : Gateway}
    (h : g'.node.registry.byTenant = g.node.registry.byTenant) : NoMore g g' := by
  intro tenantId
  rw [Registry.tenantConnectionCount, h, Registry.tenantConnectionCount]

/-- Parts of a handler that do not touch the tables. -/
theorem noMore_of_sameTables {α : Type} {q : Prog Gateway Exn α}
    (h : q.Keeps (fun _ => True) SameTables) : q.Keeps (fun _ => True) NoMore :=
  h.mono (fun _ _ _ hs => noMore_of_byTenant (Registry.SameTables.byTenant hs))

theorem RegistryMove.noMore {x : ConnId} {g g' : Gateway}
    (h : RegistryMove x false g.node.registry g'.node.registry) : NoMore g g' := by
  generalize hreg : g.node.registry = reg at h
  generalize hreg' : g'.node.registry = reg' at h
  refine noMore_of_byTenant ?_
  rw [hreg, hreg']
  cases h with
  | same h => exact h.byTenant
  | subscribe channel => unfold Registry.subscribe; split <;> rfl
  | unsubscribe channel => rfl
  | add conn _ hl => nomatch hl
  | remove hl => nomatch hl

theorem cleanupConnection_noMore (env : Env) (p : Peer) :
    (cleanupConnection env p).Keeps (fun _ => True) NoMore := by
  rw [cleanupConnection_eq]
  refine (noMore_of_sameTables (beforeRemoval_sameTables env p)).bind fun _ => ?_
  exact Prog.keeps_modify fun g _ =>
    ⟨trivial, Registry.tenantConnectionCount_remove_le g.node.registry p.connectionId⟩

theorem onReceived_noMore (env : Env) (p : Peer) (input : Received) :
    (onReceived env p input).Keeps (fun _ => True) NoMore :=
  (onReceived_keeps input (fun _ _ _ _ => trivial)).mono (fun _ _ _ h => h.noMore)

/-! ## 2. Handshakes on their way to `registry.add` -/

namespace HandlerStage

variable (env : Env) {g : Gateway}

/-- The handshake has been admitted for the tenant and is not registered yet. -/
def pending (tenantId : String) : HandlerStage → Bool
  | .admitted c _ _ => c.tenantId = tenantId
  | .adding p _ => p.tenantId = tenantId
  | _ => false

/-- The comparison comes next, for the tenant, and passes. -/
def passes (env : Env) (g : Gateway) (tenantId : String) : HandlerStage → Bool
  | .checking c => c.tenantId = tenantId && !c.full env g
  | _ => false

/-- The part a stage is in adds no connection. -/
def Modest : HandlerStage → Prop
  | .admitted _ f k => (Prog.seg f k).Keeps (fun _ => True) NoMore
  | .announcing _ f k _ => (Prog.seg f k).Keeps (fun _ => True) NoMore
  | .serving _ f k _ => (Prog.seg f k).Keeps (fun _ => True) NoMore
  | .cleaning _ f k _ => (Prog.seg f k).Keeps (fun _ => True) NoMore
  | _ => True

/-- What a segment may do: nobody new is counted, except by a comparison that passes. -/
structure Budget (env : Env) (st : HandlerStage) (g : Gateway) (g' : Gateway) (st' : HandlerStage) :
    Prop where
  modest : st'.Modest
  count : ∀ tenantId, g'.node.registry.tenantConnectionCount tenantId + (st'.pending tenantId).toNat
    ≤ g.node.registry.tenantConnectionCount tenantId + (st.pending tenantId).toNat
      + (st.passes env g tenantId).toNat

/-- A segment that adds no connection, to a stage that is not pending. -/
theorem budget_of_noMore {env : Env} {st st' : HandlerStage} {g' : Gateway} (h : NoMore g g')
    (hm : st'.Modest)
    (hp : ∀ tenantId, st'.pending tenantId = false) : Budget env st g g' st' := by
  refine ⟨hm, fun tenantId => ?_⟩
  have := h tenantId
  rw [hp, Bool.toNat_false]
  omega

theorem modest_atCleanup (p : Peer) (outcome : Except Exn Unit) {q : Prog Gateway Exn Unit}
    (hq : q.Keeps (fun _ => True) NoMore) : (atCleanup p outcome q).Modest ∧
      ∀ tenantId, (atCleanup p outcome q).pending tenantId = false := by
  cases q with
  | ret u => exact ⟨trivial, fun _ => rfl⟩
  | raise e => exact ⟨trivial, fun _ => rfl⟩
  | seg f k => exact ⟨hq, fun _ => rfl⟩

theorem modest_atBody (p : Peer) (rest : List Received) {q : Prog Gateway Exn Bool}
    (hq : q.Keeps (fun _ => True) NoMore) : (atBody env p rest q).Modest ∧
      ∀ tenantId, (atBody env p rest q).pending tenantId = false := by
  match q with
  | .ret true => exact ⟨trivial, fun _ => rfl⟩
  | .ret false => exact modest_atCleanup p _ (cleanupConnection_noMore env p)
  | .raise e => exact modest_atCleanup p _ (cleanupConnection_noMore env p)
  | .seg f k => exact ⟨hq, fun _ => rfl⟩

theorem modest_atReceive (p : Peer) (inputs : List Received) : (atReceive env p inputs).Modest ∧
    ∀ tenantId, (atReceive env p inputs).pending tenantId = false := by
  cases inputs with
  | nil => exact ⟨trivial, fun _ => rfl⟩
  | cons input rest => exact modest_atBody env p rest (onReceived_noMore env p input)

theorem modest_atAnnounce (p : Peer) (inputs : List Received) {q : Prog Gateway Exn Unit}
    (hq : q.Keeps (fun _ => True) NoMore) : (atAnnounce p inputs q).Modest ∧
      ∀ tenantId, (atAnnounce p inputs q).pending tenantId = false := by
  cases q with
  | ret u => exact ⟨trivial, fun _ => rfl⟩
  | raise e => exact ⟨trivial, fun _ => rfl⟩
  | seg f k => exact ⟨hq, fun _ => rfl⟩

/-- A handshake stays pending for its own tenant only. -/
theorem modest_atResolve (c : Client) {q : Prog Gateway Exn String}
    (hq : q.Keeps (fun _ => True) NoMore) : (atResolve env c q).Modest ∧
      ∀ tenantId, (atResolve env c q).pending tenantId = true → c.tenantId = tenantId := by
  cases q with
  | ret sessionId => exact ⟨trivial, fun _ h => of_decide_eq_true h⟩
  | raise e => exact ⟨trivial, fun _ h => nomatch h⟩
  | seg f k => exact ⟨hq, fun _ h => of_decide_eq_true h⟩

/-- **One segment of a handler keeps the budget.** -/
theorem Modest.next {st : HandlerStage} (h : st.Modest) :
    Budget env st g (st.next env g).1 (st.next env g).2 := by
  cases st with
  | refusing x code message =>
    have hout := Node.outbound_sendText x (.error code message) g.node
    simp only [HandlerStage.next, settle]
    split <;> exact budget_of_noMore (noMore_of_byTenant hout.byTenant) trivial (fun _ => rfl)
  | checking c =>
    simp only [HandlerStage.next]
    split
    · exact budget_of_noMore (NoMore.refl g) trivial (fun _ => rfl)
    · rename_i hfull
      have hresolve : (c.resolve env).Keeps (fun _ => True) NoMore :=
        noMore_of_sameTables (withRedis_sameTables _)
      obtain ⟨hm, hpend⟩ := modest_atResolve env c hresolve
      refine ⟨hm, fun tenantId => ?_⟩
      cases hp : (atResolve env c (c.resolve env)).pending tenantId with
      | false => rw [Bool.toNat_false]; omega
      | true =>
        have : (checking c).passes env g tenantId = true := by
          simp [passes, hpend tenantId hp, hfull]
        rw [this, Bool.toNat_true]
        omega
  | admitted c f k =>
    obtain ⟨-, hmove, hk⟩ := h g trivial
    obtain ⟨hm, hpend⟩ := modest_atResolve env c hk
    refine ⟨hm, fun tenantId => ?_⟩
    have := hmove tenantId
    simp only [HandlerStage.next]
    cases hp : (atResolve env c (k g)).pending tenantId with
    | false => rw [Bool.toNat_false]; omega
    | true =>
      have : (admitted c f k).pending tenantId = true := by
        simp [pending, hpend tenantId hp]
      rw [this, Bool.toNat_true]
      omega
  | adding p inputs =>
    obtain ⟨hm, hpend⟩ := modest_atAnnounce p inputs (noMore_of_sameTables (welcome_sameTables env p))
    refine ⟨hm, fun tenantId => ?_⟩
    have hadd := Registry.tenantConnectionCount_add_le g.node.registry p.connection tenantId
    have hown : ((adding p inputs).pending tenantId).toNat
        = if tenantId = p.connection.tenantId then 1 else 0 := by
      rcases eq_or_ne tenantId p.tenantId with rfl | hne
      · simp [pending, Peer.connection, newConnection]
      · simp [pending, Peer.connection, newConnection, hne, hne.symm]
    have hnext : ((adding p inputs).next env g).1.node.registry
        = g.node.registry.add p.connection := rfl
    rw [hnext, hown]
    simp only [HandlerStage.next, hpend, Bool.toNat_false]
    omega
  | announcing p f k inputs =>
    obtain ⟨-, hmove, hk⟩ := h g trivial
    obtain ⟨hm, hpend⟩ := modest_atAnnounce p inputs hk
    exact budget_of_noMore hmove hm hpend
  | looking p inputs =>
    simp only [HandlerStage.next]
    split
    · obtain ⟨hm, hpend⟩ := modest_atReceive env p inputs
      exact budget_of_noMore (NoMore.refl g) hm hpend
    · obtain ⟨hm, hpend⟩ := modest_atCleanup p (.ok ()) (cleanupConnection_noMore env p)
      exact budget_of_noMore (NoMore.refl g) hm hpend
  | serving p f k rest =>
    obtain ⟨-, hmove, hk⟩ := h g trivial
    obtain ⟨hm, hpend⟩ := modest_atBody env p rest hk
    exact budget_of_noMore hmove hm hpend
  | cleaning p f k outcome =>
    obtain ⟨-, hmove, hk⟩ := h g trivial
    obtain ⟨hm, hpend⟩ := modest_atCleanup p outcome hk
    exact budget_of_noMore hmove hm hpend
  | waiting p => exact budget_of_noMore (NoMore.refl g) trivial (fun _ => rfl)
  | ended outcome => exact budget_of_noMore (NoMore.refl g) trivial (fun _ => rfl)

theorem modest_start (s : Socket) (inputs : List Received) : (start s inputs).Modest ∧
    ∀ tenantId, (start s inputs).pending tenantId = false := by
  unfold start
  split
  · exact ⟨trivial, fun _ => rfl⟩
  · split
    · split <;> exact ⟨trivial, fun _ => rfl⟩
    · exact ⟨trivial, fun _ => rfl⟩
  · exact ⟨trivial, fun _ => rfl⟩

end HandlerStage

/-! ## 3. All handlers of a process -/

namespace GatewayTask

/-- A handshake that is admitted and not registered yet. -/
def pending (tenantId : String) : GatewayTask → Bool
  | .inl st => st.pending tenantId
  | .inr _ => false

/-- Only `registry.add` adds a connection. -/
def Modest : GatewayTask → Prop
  | .inl st => st.Modest
  | .inr q => q.Keeps (fun _ => True) NoMore

/-- The comparison comes next, for the tenant, and passes. -/
def passes (env : Env) (g : Gateway) (tenantId : String) : GatewayTask → Bool
  | .inl st => st.passes env g tenantId
  | .inr _ => false

/-- One segment of any task. -/
theorem Modest.next (env : Env) (g : Gateway) {o : GatewayTask} (h : Modest o) :
    Modest (besideNext (HandlerStage.next env) o g).2 ∧
      ∀ tenantId, (besideNext (HandlerStage.next env) o g).1.node.registry.tenantConnectionCount
          tenantId + (pending tenantId (besideNext (HandlerStage.next env) o g).2).toNat
        ≤ g.node.registry.tenantConnectionCount tenantId + (pending tenantId o).toNat
          + (passes env g tenantId o).toNat := by
  match o with
  | .inl st =>
    have hb : HandlerStage.Budget env st g _ _ := HandlerStage.Modest.next env h
    exact ⟨hb.modest, hb.count⟩
  | .inr (.seg f k) =>
    obtain ⟨-, hmove, hk⟩ := h g trivial
    exact ⟨hk, hmove⟩
  | .inr (.ret a) => exact ⟨h, fun _ => Nat.le_refl _⟩
  | .inr (.raise e) => exact ⟨h, fun _ => Nat.le_refl _⟩

end GatewayTask

/-- The handshakes of a tenant between the comparison and `registry.add`. -/
def pendingHandshakes (t : Tasks Gateway GatewayTask) (tenantId : String) : Nat :=
  t.stages.countP (GatewayTask.pending tenantId)

/-- If a handshake is compared with the limit next and passes, it would have passed with the
pending ones counted. -/
def LeavesRoom (env : Env) (t : Tasks Gateway GatewayTask) (i : Nat) : Prop :=
  match t.stages[i]? with
  | some (.inl (.checking c)) => c.full env t.state = false →
      t.state.node.registry.tenantConnectionCount c.tenantId + pendingHandshakes t c.tenantId
        < env.settings.maxConnectionsPerTenant
  | _ => True

instance (env : Env) (t : Tasks Gateway GatewayTask) (i : Nat) : Decidable (LeavesRoom env t i) := by
  unfold LeavesRoom
  split <;> infer_instance

/-- Connections and pending handshakes of every tenant are within the limit. -/
structure WithinLimit (env : Env) (t : Tasks Gateway GatewayTask) : Prop where
  modest : ∀ o ∈ t.stages, GatewayTask.Modest o
  count : ∀ tenantId, t.state.node.registry.tenantConnectionCount tenantId
    + pendingHandshakes t tenantId ≤ env.settings.maxConnectionsPerTenant

/-- A comparison that passes has room. -/
theorem LeavesRoom.of_passes {env : Env} {t : Tasks Gateway GatewayTask} {i : Nat} {o : GatewayTask}
    (h : LeavesRoom env t i) (hi : t.stages[i]? = some o) {tenantId : String}
    (hp : GatewayTask.passes env t.state tenantId o = true) :
    t.state.node.registry.tenantConnectionCount tenantId + pendingHandshakes t tenantId
      < env.settings.maxConnectionsPerTenant := by
  match o with
  | .inl (.checking c) =>
    obtain ⟨hc, hfull⟩ : c.tenantId = tenantId ∧ c.full env t.state = false := by
      simpa [GatewayTask.passes, HandlerStage.passes] using hp
    simp only [LeavesRoom, hi] at h
    rw [← hc]
    exact h hfull

/-- **One step of any task.** -/
theorem withinLimit_step {env : Env} {t : Tasks Gateway GatewayTask} {i : Nat}
    (h : WithinLimit env t) (hroom : LeavesRoom env t i) :
    WithinLimit env (GatewayTask.step env t i) := by
  rcases Tasks.step_cases (besideNext (HandlerStage.next env)) t i with
    ⟨-, hsame⟩ | ⟨before, o, after, hstages, hi, hstep⟩
  · rw [GatewayTask.step, hsame]
    exact h
  · have hmodest := h.modest
    rw [hstages] at hmodest
    simp only [List.forall_mem_append, List.forall_mem_cons] at hmodest
    obtain ⟨hbefore, ho, hafter⟩ := hmodest
    obtain ⟨hnext, hcount⟩ := GatewayTask.Modest.next env t.state ho
    rw [GatewayTask.step, hstep]
    constructor
    · simpa only [List.forall_mem_append, List.forall_mem_cons] using ⟨hbefore, hnext, hafter⟩
    · intro tenantId
      have hold := h.count tenantId
      have hroom' := @LeavesRoom.of_passes env t i o hroom hi tenantId
      have hc := hcount tenantId
      simp only [pendingHandshakes, hstages, countP_around] at hold hroom' ⊢
      cases hp : GatewayTask.passes env t.state tenantId o with
      | false =>
        rw [hp, Bool.toNat_false] at hc
        omega
      | true =>
        have := hroom' hp
        rw [hp, Bool.toNat_true] at hc
        omega

/-- Handlers on these sockets, and the other tasks of the process. -/
def handshakePool (env : Env) (sockets : List (Socket × List Received))
    (others : List (Prog Gateway Exn Unit)) (g : Gateway) : Pool Gateway Exn Unit :=
  ⟨g, sockets.map (fun s => handleConnection env s.1 s.2) ++ others⟩

/-- The same, with the handlers by their stages. -/
def handshakeTasks (sockets : List (Socket × List Received)) (others : List (Prog Gateway Exn Unit))
    (g : Gateway) : Tasks Gateway GatewayTask :=
  ⟨g, sockets.map (fun s => .inl (HandlerStage.start s.1 s.2)) ++ others.map .inr⟩

theorem handshakeTasks_toPool (env : Env) (sockets : List (Socket × List Received))
    (others : List (Prog Gateway Exn Unit)) (g : Gateway) :
    (handshakeTasks sockets others g).toPool (GatewayTask.prog env)
      = handshakePool env sockets others g := by
  have hothers : others.map (GatewayTask.prog env ∘ Sum.inr) = others := List.map_id _
  have hsockets : sockets.map (GatewayTask.prog env ∘ fun s => Sum.inl (HandlerStage.start s.1 s.2))
      = sockets.map (fun s => handleConnection env s.1 s.2) :=
    List.map_congr_left (fun s _ => HandlerStage.prog_start env s.1 s.2)
  simp only [Tasks.toPool, handshakeTasks, handshakePool, List.map_append, List.map_map, hothers,
    hsockets]

/-- **The limit is kept while no comparison overlooks a pending handshake.**  For every limit, every
number of handshakes and every interleaving of them with each other, with disconnects, and with
tasks that register nothing. -/
theorem tenant_limit_kept (env : Env) (sockets : List (Socket × List Received))
    (others : List (Prog Gateway Exn Unit))
    (hothers : ∀ q ∈ others, q.Keeps (fun _ => True) NoMore) (g : Gateway)
    (hstart : ∀ tenantId, g.node.registry.tenantConnectionCount tenantId
      ≤ env.settings.maxConnectionsPerTenant) (sched : List Nat)
    (hroom : Along (GatewayTask.step env) (LeavesRoom env) (handshakeTasks sockets others g) sched) :
    (handshakePool env sockets others g).exec sched
        = (runAll (GatewayTask.step env) (handshakeTasks sockets others g) sched).toPool
          (GatewayTask.prog env) ∧
      ∀ tenantId, ((handshakePool env sockets others g).exec
          sched).state.node.registry.tenantConnectionCount tenantId
        ≤ env.settings.maxConnectionsPerTenant := by
  have hpool := GatewayTask.exec_pool env sched (handshakeTasks sockets others g)
  rw [handshakeTasks_toPool] at hpool
  have hinit : WithinLimit env (handshakeTasks sockets others g) := by
    have hnone : ∀ tenantId, pendingHandshakes (handshakeTasks sockets others g) tenantId = 0 := by
      intro tenantId
      refine List.countP_eq_zero.mpr (fun o ho => ?_)
      rcases List.mem_append.mp ho with ho | ho
      · obtain ⟨s, -, rfl⟩ := List.mem_map.mp ho
        simp [GatewayTask.pending, (HandlerStage.modest_start s.1 s.2).2 tenantId]
      · obtain ⟨q, -, rfl⟩ := List.mem_map.mp ho
        exact Bool.false_ne_true
    constructor
    · intro o ho
      rcases List.mem_append.mp ho with ho | ho
      · obtain ⟨s, -, rfl⟩ := List.mem_map.mp ho
        exact (HandlerStage.modest_start s.1 s.2).1
      · obtain ⟨q, hq, rfl⟩ := List.mem_map.mp ho
        exact hothers q hq
    · intro tenantId
      rw [hnone]
      exact hstart tenantId
  have hend := runAll_invariant (fun t i => withinLimit_step) sched _ hinit hroom
  refine ⟨hpool, fun tenantId => ?_⟩
  rw [hpool]
  exact Nat.le_trans (Nat.le_add_right _ _) (hend.count tenantId)

/-- Two sockets of one tenant. -/
def socketPair : List (Socket × List Received) :=
  [(⟨"conn-a", "sess-a", some (ClientFrame.connect "k" none).toJson, .ok "t"⟩, []),
    (⟨"conn-b", "sess-b", some (ClientFrame.connect "k" none).toJson, .ok "t"⟩, [])]

/-- **Two handshakes pass the comparison before either is registered**, and the tenant has two
connections under a limit of one. -/
theorem concurrent_handshakes_exceed_limit :
    ((handshakePool (.plain { maxConnectionsPerTenant := 1 }) socketPair [] ⟨{}, {}⟩).exec
      [0, 1, 0, 0, 0, 1, 1, 1]).state.node.registry.tenantConnectionCount "t" = 2 := by
  decide +kernel

/-- Under a limit of two the same interleaving has room. -/
theorem concurrent_handshakes_within_limit :
    ((handshakePool (.plain { maxConnectionsPerTenant := 2 }) socketPair [] ⟨{}, {}⟩).exec
      [0, 1, 0, 0, 0, 1, 1, 1]).state.node.registry.tenantConnectionCount "t" ≤ 2 :=
  (tenant_limit_kept (.plain { maxConnectionsPerTenant := 2 }) socketPair []
    (fun q hq => absurd hq List.not_mem_nil) ⟨{}, {}⟩ (fun _ => Nat.zero_le _)
    [0, 1, 0, 0, 0, 1, 1, 1] (by decide +kernel)).2 "t"

end Relay
