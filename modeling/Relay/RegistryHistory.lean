/-
# Histories of the registry

The registry keeps every connection in four places: the table, and the indexes by session, by tenant
and by channel.  `add`, `remove`, `subscribe` and `unsubscribe` each touch some of them, take unknown
ids and may be repeated.  Delivery, the tenant limit and the cleanup read different ones.

The table decides: after any history an id is in an index exactly under the keys of its connection
(`Indexed`).  What `local_subscribers` and `tenant_connection_count` return follows from that.

The converse of `add` is not `remove`, though.  `setdefault` creates a key for a set of ids and
nothing ever deletes one, so the empty set stays behind.

* `registry_consistent`: the four tables agree after every history;
* `visit_traceless_iff`: a connection that comes and goes leaves the four dictionaries as they were
  exactly if all the keys it uses were there before;
* `first_visit_leaves_keys`: the first visitor of a session, tenant and channel leaves all three.
-/
import Mathlib
import Relay.Release

namespace Relay

/-! ## 1. Histories -/

/-- One call on the registry. -/
inductive RegistryAct
  | add (conn : Connection)
  | remove (x : ConnId)
  | subscribe (x : ConnId) (channel : Channel)
  | unsubscribe (x : ConnId) (channel : Channel)

namespace Registry

/-- The registry after a call. -/
def step (reg : Registry) : RegistryAct → Registry
  | .add conn => reg.add conn
  | .remove x => (reg.remove x).2
  | .subscribe x channel => reg.subscribe x channel
  | .unsubscribe x channel => reg.unsubscribe x channel

/-- A connection is added as `handle_connection` does it: under an id that is not registered, and
before it has subscribed to anything. -/
def Admits (reg : Registry) : RegistryAct → Prop
  | .add conn => reg.byId.get? conn.connectionId = none ∧ conn.subscriptions.elems = []
  | _ => True

/-- The registry after a history. -/
def Reachable (reg : Registry) : Prop :=
  ∃ acts, Along step Admits {} acts ∧ reg = runAll step {} acts

/-! ## 2. The table decides -/

/-- An id is in an index exactly under the keys of its connection. -/
def Indexed (reg : Registry) : Prop :=
  ∀ i key x, x ∈ reg.ids i key ↔ ∃ conn, reg.byId.get? x = some conn ∧ conn.Under i key

variable {reg reg' : Registry} {x y : ConnId} {i : Index} {key : String}

theorem indexed_empty : Indexed {} := by
  intro i key x
  cases i <;> simp [ids]

theorem Indexed.add (h : reg.Indexed) {conn : Connection}
    (hfresh : reg.byId.get? conn.connectionId = none) (hsubs : conn.subscriptions.elems = []) :
    (reg.add conn).Indexed := by
  intro i key y
  rw [mem_ids_add, h i key y, get_add]
  by_cases hy : y = conn.connectionId
  · rw [if_pos hy, hy, hfresh]
    have hchannel : conn.Under i key → i ≠ .channel := by
      rintro hunder rfl
      rw [Connection.Under, OSet.mem_def, hsubs] at hunder
      exact absurd hunder (by simp)
    simp only [true_and, reduceCtorEq, false_and, exists_false, or_false, Option.some.injEq,
      exists_eq_left']
    exact ⟨fun hu => hu.2, fun hu => ⟨hchannel hu, hu⟩⟩
  · rw [if_neg hy]
    simp [hy]

theorem Indexed.remove (h : reg.Indexed) (x : ConnId) : (reg.remove x).2.Indexed := by
  intro i key y
  rw [mem_ids_remove, h i key y, get_remove]
  by_cases hy : y = x
  · rw [if_pos hy, hy]
    simp
  · rw [if_neg hy]
    simp [hy]

/-- A change of one connection's subscriptions, and of the channel index with it. -/
theorem Indexed.resubscribe (h : reg.Indexed) {f : Connection → Connection} (channel : Channel)
    (hget : ∀ y, reg'.byId.get? y = if y = x then (reg.byId.get? y).map f else reg.byId.get? y)
    (hother : ∀ i key y, ¬ (y = x ∧ i = .channel ∧ key = channel) →
      (y ∈ reg'.ids i key ↔ y ∈ reg.ids i key))
    (hunder : ∀ conn i key, ¬ (i = .channel ∧ key = channel) →
      ((f conn).Under i key ↔ conn.Under i key))
    (hself : x ∈ reg'.ids .channel channel ↔
      ∃ conn, reg.byId.get? x = some conn ∧ (f conn).Under .channel channel) :
    reg'.Indexed := by
  intro i key y
  rw [hget]
  by_cases hy : y = x
  · subst hy
    rw [if_pos rfl]
    simp only [Option.map_eq_some_iff]
    by_cases hk : i = .channel ∧ key = channel
    · obtain ⟨rfl, rfl⟩ := hk
      rw [hself]
      constructor
      · rintro ⟨conn, hconn, hu⟩
        exact ⟨f conn, ⟨conn, hconn, rfl⟩, hu⟩
      · rintro ⟨_, ⟨conn, hconn, rfl⟩, hu⟩
        exact ⟨conn, hconn, hu⟩
    · rw [hother i key y (fun hcon => hk hcon.2), h i key y]
      constructor
      · rintro ⟨conn, hconn, hu⟩
        exact ⟨f conn, ⟨conn, hconn, rfl⟩, (hunder conn i key hk).mpr hu⟩
      · rintro ⟨_, ⟨conn, hconn, rfl⟩, hu⟩
        exact ⟨conn, hconn, (hunder conn i key hk).mp hu⟩
  · rw [if_neg hy, hother i key y (fun hcon => hy hcon.1)]
    exact h i key y

theorem Indexed.subscribe (h : reg.Indexed) (x : ConnId) (channel : Channel) :
    (reg.subscribe x channel).Indexed := by
  refine h.resubscribe channel (fun y => get_subscribe reg x y channel) (fun i key y hnot => ?_)
    (fun conn i key hnot => ?_) ?_
  · rw [mem_ids_subscribe]
    exact or_iff_right (fun hcon => hnot ⟨hcon.1, hcon.2.1, hcon.2.2.1⟩)
  · cases i with
    | session => exact Iff.rfl
    | tenant => exact Iff.rfl
    | channel => exact OSet.mem_add.trans (or_iff_right (fun hk => hnot ⟨rfl, hk⟩))
  · rw [mem_ids_subscribe, h .channel channel x]
    constructor
    · rintro (⟨-, -, -, hsome⟩ | ⟨conn, hconn, -⟩)
      · obtain ⟨conn, hconn⟩ := Option.isSome_iff_exists.mp hsome
        exact ⟨conn, hconn, OSet.mem_add.mpr (Or.inl rfl)⟩
      · exact ⟨conn, hconn, OSet.mem_add.mpr (Or.inl rfl)⟩
    · rintro ⟨conn, hconn, -⟩
      exact Or.inl ⟨rfl, rfl, rfl, by rw [hconn]; rfl⟩

theorem Indexed.unsubscribe (h : reg.Indexed) (x : ConnId) (channel : Channel) :
    (reg.unsubscribe x channel).Indexed := by
  refine h.resubscribe channel (fun y => get_unsubscribe reg x y channel) (fun i key y hnot => ?_)
    (fun conn i key hnot => ?_) ?_
  · rw [mem_ids_unsubscribe]
    exact and_iff_right hnot
  · cases i with
    | session => exact Iff.rfl
    | tenant => exact Iff.rfl
    | channel => exact OSet.mem_discard.trans (and_iff_right (fun hk => hnot ⟨rfl, hk⟩))
  · rw [mem_ids_unsubscribe]
    constructor
    · rintro ⟨hnot, -⟩
      exact absurd ⟨rfl, rfl, rfl⟩ hnot
    · rintro ⟨conn, -, hu⟩
      exact absurd rfl (OSet.mem_discard.mp hu).1

theorem Indexed.step (h : reg.Indexed) (a : RegistryAct) (ha : reg.Admits a) :
    (reg.step a).Indexed := by
  cases a with
  | add conn => exact h.add ha.1 ha.2
  | remove x => exact h.remove x
  | subscribe x channel => exact h.subscribe x channel
  | unsubscribe x channel => exact h.unsubscribe x channel

theorem Reachable.indexed (h : reg.Reachable) : reg.Indexed := by
  obtain ⟨acts, hok, rfl⟩ := h
  have hstep : ∀ (r : Registry) a, r.Indexed → r.Admits a → (r.step a).Indexed :=
    fun _ a hi ha => hi.step a ha
  exact runAll_invariant hstep acts {} indexed_empty hok

/-- The ids under a tenant's key are the tenant's connections. -/
theorem Indexed.tenantConnectionCount (h : reg.Indexed) (tenantId : String) :
    reg.tenantConnectionCount tenantId =
      reg.byId.count (fun _ conn => decide (conn.tenantId = tenantId)) := by
  have hperm : (reg.ids .tenant tenantId).elems.Perm
      ((reg.byId.entries.filter (fun e => decide (e.2.tenantId = tenantId))).map Prod.fst) := by
    refine (List.perm_ext_iff_of_nodup (reg.ids .tenant tenantId).nodup
      (Dict.nodup_filterL _ reg.byId.nodup)).mpr (fun x => ?_)
    rw [← OSet.mem_def, h .tenant tenantId x]
    simp only [List.mem_map, List.mem_filter, decide_eq_true_eq, Connection.Under]
    constructor
    · rintro ⟨conn, hconn, rfl⟩
      exact ⟨(x, conn), ⟨(Dict.mem_entries _ _ _).mpr hconn, rfl⟩, rfl⟩
    · rintro ⟨⟨y, conn⟩, ⟨hmem, hten⟩, rfl⟩
      exact ⟨conn, (Dict.mem_entries _ _ _).mp hmem, hten.symm⟩
  have hlen := hperm.length_eq
  rw [List.length_map] at hlen
  rw [Dict.count, List.countP_eq_length_filter]
  exact hlen

end Registry

/-- **The registry after any history.**  An id is in `_by_channel[c]` exactly if its connection is
registered and subscribed to `c`, and in `_by_session[s]` and `_by_tenant[t]` exactly if it is
registered with that session and tenant.  So `local_subscribers(c)` lists the registered connections
subscribed to `c`, each once, and `tenant_connection_count(t)` counts the connections of `t`. -/
theorem registry_consistent (acts : List RegistryAct)
    (hok : Along Registry.step Registry.Admits {} acts) :
    let reg := runAll Registry.step {} acts
    (∀ x c, x ∈ reg.byChannel.getD c OSet.empty ↔
      ∃ conn, reg.byId.get? x = some conn ∧ c ∈ conn.subscriptions) ∧
    (∀ x s, x ∈ reg.bySession.getD s OSet.empty ↔
      ∃ conn, reg.byId.get? x = some conn ∧ s = conn.sessionId) ∧
    (∀ x t, x ∈ reg.byTenant.getD t OSet.empty ↔
      ∃ conn, reg.byId.get? x = some conn ∧ t = conn.tenantId) ∧
    (∀ c, (reg.localSubscribers c).Nodup ∧ ∀ x, x ∈ reg.localSubscribers c ↔
      ∃ conn, reg.byId.get? x = some conn ∧ c ∈ conn.subscriptions) ∧
    ∀ t, reg.tenantConnectionCount t =
      reg.byId.count (fun _ conn => decide (conn.tenantId = t)) := by
  intro reg
  have h : reg.Indexed := Registry.Reachable.indexed ⟨acts, hok, rfl⟩
  refine ⟨fun x c => h .channel c x, fun x s => h .session s x, fun x t => h .tenant t x,
    fun c => ⟨Registry.nodup_localSubscribers reg c, fun x => ?_⟩, h.tenantConnectionCount⟩
  have hc := h .channel c x
  rw [Registry.mem_localSubscribers]
  refine ⟨fun hx => hc.mp hx.1, fun hx => ⟨hc.mpr hx, ?_⟩⟩
  obtain ⟨conn, hconn, -⟩ := hx
  rw [hconn]
  rfl

/-- A client comes, subscribes, and its connection is removed. -/
def oneVisit : List RegistryAct :=
  [.add (newConnection "x" "s" "a" none), .subscribe "x" "t-a:c", .remove "x"]

/-- While it is there, it is the one connection of its tenant and its channel. -/
theorem visitor_is_counted :
    (runAll Registry.step {} (oneVisit.take 2)).localSubscribers "t-a:c" = ["x"] ∧
      (runAll Registry.step {} (oneVisit.take 2)).tenantConnectionCount "a" = 1 ∧
      ∃ conn, (runAll Registry.step {} (oneVisit.take 2)).byId.get? "x" = some conn ∧
        "t-a:c" ∈ conn.subscriptions := by
  have hok : Along Registry.step Registry.Admits {} (oneVisit.take 2) :=
    ⟨⟨rfl, rfl⟩, trivial, trivial⟩
  obtain ⟨hchannel, -, -, -, hcount⟩ := registry_consistent (oneVisit.take 2) hok
  refine ⟨by decide +kernel, (hcount "a").trans (by decide +kernel), (hchannel "x" "t-a:c").mp ?_⟩
  decide +kernel

/-! ## 3. What a connection leaves behind -/

namespace Registry

/-- The three indexes. -/
def index (reg : Registry) : Index → Dict String (OSet ConnId)
  | .session => reg.bySession
  | .tenant => reg.byTenant
  | .channel => reg.byChannel

/-- The index has an entry at the key, be it an empty set. -/
def HasKey (reg : Registry) (i : Index) (key : String) : Prop :=
  ((reg.index i).get? key).isSome = true

instance (reg : Registry) (i : Index) (key : String) : Decidable (reg.HasKey i key) :=
  inferInstanceAs (Decidable (_ = true))

/-- The same four dictionaries: the same keys and the same values. -/
structure SameDicts (reg reg' : Registry) : Prop where
  byId : ∀ x, reg'.byId.get? x = reg.byId.get? x
  keys : ∀ i key, reg'.HasKey i key ↔ reg.HasKey i key
  ids : ∀ i key x, x ∈ reg'.ids i key ↔ x ∈ reg.ids i key

section Keys

variable {reg reg' : Registry} {x y : ConnId} {i : Index} {key : String}

theorem isSome_insertAt (index : Dict String (OSet ConnId)) (key key' : String) (x : ConnId) :
    ((insertAt index key x).get? key').isSome = true ↔
      key' = key ∨ (index.get? key').isSome = true := by
  rw [insertAt, Dict.get?_set]
  split
  · rename_i h
    simp [h]
  · rename_i h
    simp [h]

theorem isSome_discardAt (index : Dict String (OSet ConnId)) (key key' : String) (x : ConnId) :
    ((discardAt index key x).get? key').isSome = (index.get? key').isSome := by
  rw [discardAt, Dict.get?_modify]
  split
  · exact Option.isSome_map
  · rfl

theorem isSome_foldl_discardAt (key : String) (x : ConnId) :
    ∀ (l : List Channel) (index : Dict String (OSet ConnId)),
      ((l.foldl (fun index ch => discardAt index ch x) index).get? key).isSome =
        (index.get? key).isSome
  | [], index => rfl
  | ch :: l, index => by
    rw [List.foldl_cons, isSome_foldl_discardAt key x l, isSome_discardAt]

theorem hasKey_add {conn : Connection} : (reg.add conn).HasKey i key ↔
    i ≠ .channel ∧ conn.Under i key ∨ reg.HasKey i key := by
  cases i with
  | session => simpa [HasKey, index, add, Connection.Under] using isSome_insertAt _ _ _ _
  | tenant => simpa [HasKey, index, add, Connection.Under] using isSome_insertAt _ _ _ _
  | channel => simp [HasKey, index, add]

theorem hasKey_subscribe {channel : Channel} : (reg.subscribe x channel).HasKey i key ↔
    (i = .channel ∧ key = channel ∧ (reg.byId.get? x).isSome = true) ∨ reg.HasKey i key := by
  cases hx : reg.byId.get? x with
  | none => simp [subscribe, hx]
  | some conn =>
    cases i with
    | session => simp [HasKey, index, subscribe, hx]
    | tenant => simp [HasKey, index, subscribe, hx]
    | channel => simpa [HasKey, index, subscribe, hx] using isSome_insertAt _ _ _ _

/-- A key is never taken out again. -/
theorem hasKey_unsubscribe {channel : Channel} :
    (reg.unsubscribe x channel).HasKey i key ↔ reg.HasKey i key := by
  cases i with
  | session => exact Iff.rfl
  | tenant => exact Iff.rfl
  | channel => rw [HasKey, index, unsubscribe, isSome_discardAt]; exact Iff.rfl

theorem hasKey_remove : (reg.remove x).2.HasKey i key ↔ reg.HasKey i key := by
  cases hx : reg.byId.get? x with
  | none => simp [remove, hx]
  | some conn =>
    cases i with
    | session => simp only [HasKey, index, remove, hx, isSome_discardAt]
    | tenant => simp only [HasKey, index, remove, hx, isSome_discardAt]
    | channel => simp only [HasKey, index, remove, hx, isSome_foldl_discardAt]

end Keys

end Registry

/-- A call for the channels of one connection. -/
inductive ChannelCall
  | subscribe (channel : Channel)
  | unsubscribe (channel : Channel)
  deriving DecidableEq

/-- The call on the registry. -/
def ChannelCall.act (x : ConnId) : ChannelCall → RegistryAct
  | .subscribe channel => .subscribe x channel
  | .unsubscribe channel => .unsubscribe x channel

/-- A connection comes, makes its calls and is removed. -/
def visit (conn : Connection) (calls : List ChannelCall) : List RegistryAct :=
  .add conn :: (calls.map (ChannelCall.act conn.connectionId) ++ [.remove conn.connectionId])

section Visit

variable {reg : Registry} {x : ConnId}

/-- While the connection makes its calls: the others are left alone, it stays registered, and each
SUBSCRIBE has made sure of its key. -/
theorem calls_run (calls : List ChannelCall) : ∀ {reg : Registry},
    (reg.byId.get? x).isSome = true →
      let reg' := runAll Registry.step reg (calls.map (ChannelCall.act x))
      (reg'.byId.get? x).isSome = true ∧
      (∀ y, y ≠ x → reg'.byId.get? y = reg.byId.get? y) ∧
      ∀ i key, reg'.HasKey i key ↔
        (i = .channel ∧ .subscribe key ∈ calls) ∨ reg.HasKey i key := by
  induction calls with
  | nil => exact fun hx => ⟨hx, fun _ _ => rfl, fun i key => by simp⟩
  | cons call calls ih =>
    intro reg hx
    cases call with
    | subscribe channel =>
      have hstep : ((reg.subscribe x channel).byId.get? x).isSome = true := by
        rw [Registry.get_subscribe, if_pos rfl, Option.isSome_map]
        exact hx
      obtain ⟨h1, h2, h3⟩ := ih hstep
      refine ⟨h1, fun y hy => (h2 y hy).trans ?_, fun i key => (h3 i key).trans ?_⟩
      · rw [Registry.get_subscribe, if_neg hy]
      · rw [Registry.hasKey_subscribe]
        simp only [hx, and_true, List.mem_cons, ChannelCall.subscribe.injEq]
        tauto
    | unsubscribe channel =>
      have hstep : ((reg.unsubscribe x channel).byId.get? x).isSome = true := by
        rw [Registry.get_unsubscribe, if_pos rfl, Option.isSome_map]
        exact hx
      obtain ⟨h1, h2, h3⟩ := ih hstep
      refine ⟨h1, fun y hy => (h2 y hy).trans ?_, fun i key => (h3 i key).trans ?_⟩
      · rw [Registry.get_unsubscribe, if_neg hy]
      · rw [Registry.hasKey_unsubscribe]
        simp

/-- The whole visit: the table is as before, and the keys the connection has used are there. -/
theorem visit_run (reg : Registry) {conn : Connection} (calls : List ChannelCall)
    (hfresh : reg.byId.get? conn.connectionId = none) :
    (∀ y, (runAll Registry.step reg (visit conn calls)).byId.get? y = reg.byId.get? y) ∧
    ∀ i key, (runAll Registry.step reg (visit conn calls)).HasKey i key ↔
      (i = .channel ∧ .subscribe key ∈ calls) ∨ (i ≠ .channel ∧ conn.Under i key) ∨
        reg.HasKey i key := by
  have hadded : ((reg.add conn).byId.get? conn.connectionId).isSome = true := by
    rw [Registry.get_add, if_pos rfl]
    rfl
  obtain ⟨-, hothers, hkeys⟩ := calls_run calls hadded
  simp only [visit, runAll_cons, runAll_append, runAll_nil]
  refine ⟨fun y => ?_, fun i key => ?_⟩
  · show ((Registry.remove _ _).2.byId.get? y) = _
    rw [Registry.get_remove]
    split
    · rename_i hy
      rw [hy, hfresh]
    · rename_i hy
      exact (hothers y hy).trans (by rw [Registry.get_add, if_neg hy])
  · show (Registry.remove _ _).2.HasKey i key ↔ _
    rw [Registry.hasKey_remove]
    exact (hkeys i key).trans (by rw [Registry.hasKey_add])

theorem along_visit (reg : Registry) {conn : Connection} (calls : List ChannelCall)
    (hfresh : reg.byId.get? conn.connectionId = none) (hsubs : conn.subscriptions.elems = []) :
    Along Registry.step Registry.Admits reg (visit conn calls) := by
  refine ⟨⟨hfresh, hsubs⟩, along_append.mpr ⟨?_, trivial, trivial⟩⟩
  have hcalls : ∀ a ∈ calls.map (ChannelCall.act conn.connectionId),
      ∀ r : Registry, r.Admits a := by
    intro a ha r
    obtain ⟨call, -, rfl⟩ := List.mem_map.mp ha
    cases call <;> trivial
  exact (along_of_forall _ hcalls).mono fun r a h => h r

end Visit

/-- **A connection leaves no trace** exactly if the keys it has used were there before it came: its
session, its tenant, and every channel it has subscribed to. -/
theorem visit_traceless_iff (reg : Registry) (hreg : reg.Reachable) (conn : Connection)
    (hfresh : reg.byId.get? conn.connectionId = none) (hsubs : conn.subscriptions.elems = [])
    (calls : List ChannelCall) :
    reg.SameDicts (runAll Registry.step reg (visit conn calls)) ↔
      reg.HasKey .session conn.sessionId ∧ reg.HasKey .tenant conn.tenantId ∧
        ∀ channel, .subscribe channel ∈ calls → reg.HasKey .channel channel := by
  obtain ⟨htable, hkeys⟩ := visit_run reg calls hfresh
  constructor
  · intro h
    refine ⟨(h.keys _ _).mp ((hkeys _ _).mpr ?_), (h.keys _ _).mp ((hkeys _ _).mpr ?_),
      fun channel hmem => (h.keys _ _).mp ((hkeys _ _).mpr (Or.inl ⟨rfl, hmem⟩))⟩
    · exact Or.inr (Or.inl ⟨by simp, rfl⟩)
    · exact Or.inr (Or.inl ⟨by simp, rfl⟩)
  · rintro ⟨hsession, htenant, hchannels⟩
    have hindexed : (runAll Registry.step reg (visit conn calls)).Indexed := by
      have hstep : ∀ (r : Registry) a, r.Indexed → r.Admits a → (r.step a).Indexed :=
        fun _ a hi ha => hi.step a ha
      exact runAll_invariant hstep _ reg hreg.indexed (along_visit reg calls hfresh hsubs)
    refine ⟨htable, fun i key => (hkeys i key).trans ⟨?_, fun h => Or.inr (Or.inr h)⟩,
      fun i key x => ?_⟩
    · rintro (⟨rfl, hmem⟩ | ⟨hne, hunder⟩ | hold)
      · exact hchannels key hmem
      · cases i with
        | session => rw [hunder]; exact hsession
        | tenant => rw [hunder]; exact htenant
        | channel => exact absurd rfl hne
      · exact hold
    · -- the table decides what the indexes hold
      rw [hindexed i key x, hreg.indexed i key x, htable x]

/-- The first visitor has gone, no connection is left, and three empty sets are. -/
theorem first_visit_leaves_keys :
    oneVisit = visit (newConnection "x" "s" "a" none) [.subscribe "t-a:c"] ∧
      (runAll Registry.step {} oneVisit).byId.size = 0 ∧
      (runAll Registry.step {} oneVisit).bySession.size = 1 ∧
      (runAll Registry.step {} oneVisit).byTenant.size = 1 ∧
      (runAll Registry.step {} oneVisit).byChannel.size = 1 ∧
      ∀ i : Index, ({} : Registry).index i = Dict.empty := by
  refine ⟨rfl, by decide +kernel, by decide +kernel, by decide +kernel, by decide +kernel, ?_⟩
  intro i
  cases i <;> rfl

/-- The second visit of the same client leaves nothing more behind. -/
theorem second_visit_is_traceless :
    (runAll Registry.step {} oneVisit).SameDicts (runAll Registry.step
      (runAll Registry.step {} oneVisit) (visit (newConnection "y" "s" "a" none)
        [.subscribe "t-a:c", .unsubscribe "t-a:c", .unsubscribe "t-a:d"])) := by
  have hreach : (runAll Registry.step {} oneVisit).Reachable :=
    ⟨oneVisit, ⟨⟨rfl, rfl⟩, trivial, trivial, trivial⟩, rfl⟩
  have hnone : ((runAll Registry.step {} oneVisit).byId.get? "y").isNone = true := by
    decide +kernel
  refine (visit_traceless_iff _ hreach (newConnection "y" "s" "a" none) (Option.isNone_iff_eq_none.mp
    hnone) rfl _).mpr ⟨by decide +kernel, by decide +kernel, fun channel hmem => ?_⟩
  simp only [List.mem_cons, ChannelCall.subscribe.injEq, reduceCtorEq, List.not_mem_nil,
    or_false] at hmem
  subst hmem
  decide +kernel

end Relay
