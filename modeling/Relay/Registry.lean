/-
# The registry of live connections

`apps/gateway/connections/manager.py`, class `ConnectionRegistry`: one table of connections and
three indexes of connection ids, by session, by tenant and by channel.

A `Connection` object is shared by the registry, its frame loop, its sender and the fanout.  Here
the table owns it, and whoever updates a connection does so through `updateConn`.  A connection
that has been removed is not reachable any more; the code only closes its socket after that.

The channel index is read through `subscribersOf`, the set of ids at a channel.  Every operation
comes with the equation for the table and for that set.
-/
import Mathlib
import Relay.Connection

namespace Relay

/-- `ConnectionRegistry`. -/
structure Registry where
  byId : Dict ConnId Connection := Dict.empty
  bySession : Dict String (OSet ConnId) := Dict.empty
  byTenant : Dict String (OSet ConnId) := Dict.empty
  byChannel : Dict Channel (OSet ConnId) := Dict.empty

namespace Registry

/-! ## 1. Indexes -/

/-- `index.setdefault(key, set()).add(x)`. -/
def insertAt (index : Dict String (OSet ConnId)) (key : String) (x : ConnId) :
    Dict String (OSet ConnId) := index.set key ((index.getD key OSet.empty).add x)

/-- `index.get(key, set()).discard(x)`: a missing key is not created. -/
def discardAt (index : Dict String (OSet ConnId)) (key : String) (x : ConnId) :
    Dict String (OSet ConnId) := index.modify key (fun s => s.discard x)

theorem mem_insertAt (index : Dict String (OSet ConnId)) (key key' : String) (x y : ConnId) :
    y ∈ (insertAt index key x).getD key' OSet.empty ↔
      y = x ∧ key' = key ∨ y ∈ index.getD key' OSet.empty := by
  rw [insertAt, Dict.getD_set]
  split
  · rename_i h
    subst h
    simp
  · rename_i h
    simp [h]

theorem mem_discardAt (index : Dict String (OSet ConnId)) (key key' : String) (x y : ConnId) :
    y ∈ (discardAt index key x).getD key' OSet.empty ↔
      ¬ (y = x ∧ key' = key) ∧ y ∈ index.getD key' OSet.empty := by
  unfold Dict.getD
  rw [discardAt, Dict.get?_modify]
  split
  · rename_i h
    subst h
    cases index.get? key' <;> simp
  · rename_i h
    simp [h]

/-! ## 2. The operations -/

/-- `add`. -/
def add (conn : Connection) (reg : Registry) : Registry where
  byId := reg.byId.set conn.connectionId conn
  bySession := insertAt reg.bySession conn.sessionId conn.connectionId
  byTenant := insertAt reg.byTenant conn.tenantId conn.connectionId
  byChannel := reg.byChannel

/-- `remove`. -/
def remove (x : ConnId) (reg : Registry) : Option Connection × Registry :=
  match reg.byId.get? x with
  | none => (none, reg)
  | some conn =>
    (some conn,
      { byId := reg.byId.erase x
        bySession := discardAt reg.bySession conn.sessionId x
        byTenant := discardAt reg.byTenant conn.tenantId x
        byChannel := conn.subscriptions.elems.foldl (fun index ch => discardAt index ch x)
          reg.byChannel })

/-- Update a connection in place. -/
def updateConn (x : ConnId) (f : Connection → Connection) (reg : Registry) : Registry :=
  { reg with byId := reg.byId.modify x f }

/-- `subscribe`. -/
def subscribe (x : ConnId) (channel : Channel) (reg : Registry) : Registry :=
  match reg.byId.get? x with
  | none => reg
  | some conn =>
    { reg with
      byId := reg.byId.set x { conn with subscriptions := conn.subscriptions.add channel }
      byChannel := insertAt reg.byChannel channel x }

/-- `unsubscribe`: the index is updated also for an id that is not registered. -/
def unsubscribe (x : ConnId) (channel : Channel) (reg : Registry) : Registry :=
  { reg with
    byId := reg.byId.modify x
      (fun conn => { conn with subscriptions := conn.subscriptions.discard channel })
    byChannel := discardAt reg.byChannel channel x }

/-- The ids at a channel. -/
def subscribersOf (reg : Registry) (channel : Channel) : OSet ConnId :=
  reg.byChannel.getD channel OSet.empty

/-- `local_subscribers`, by id.  Python iterates a set in no particular order; the order here is
that of insertion. -/
def localSubscribers (reg : Registry) (channel : Channel) : List ConnId :=
  (reg.subscribersOf channel).elems.filter (fun x => (reg.byId.get? x).isSome)

/-- `tenant_connection_count`. -/
def tenantConnectionCount (reg : Registry) (tenantId : String) : Nat :=
  (reg.byTenant.getD tenantId OSet.empty).elems.length

/-! ## 3. The table and the channel index after each operation -/

section Equations

variable (reg : Registry) (x y : ConnId) (channel channel' : Channel)

@[simp] theorem get_add (conn : Connection) :
    (reg.add conn).byId.get? y = if y = conn.connectionId then some conn else reg.byId.get? y :=
  Dict.get?_set _ _ _ _

@[simp] theorem subscribersOf_add (conn : Connection) :
    (reg.add conn).subscribersOf channel = reg.subscribersOf channel := rfl

theorem get_updateConn (f : Connection → Connection) :
    (reg.updateConn x f).byId.get? y
      = if y = x then (reg.byId.get? y).map f else reg.byId.get? y := Dict.get?_modify _ _ _ _

@[simp] theorem subscribersOf_updateConn (f : Connection → Connection) :
    (reg.updateConn x f).subscribersOf channel = reg.subscribersOf channel := rfl

theorem get_subscribe :
    (reg.subscribe x channel).byId.get? y = if y = x then (reg.byId.get? y).map (fun conn =>
      { conn with subscriptions := conn.subscriptions.add channel }) else reg.byId.get? y := by
  unfold subscribe
  split
  · rename_i h
    split
    · rename_i hy
      rw [hy, h]
      rfl
    · rfl
  · rename_i conn h
    simp only [Dict.get?_set]
    split
    · rename_i hy
      rw [hy, h]
      rfl
    · rfl

theorem mem_subscribersOf_subscribe :
    y ∈ (reg.subscribe x channel).subscribersOf channel' ↔
      (y = x ∧ channel' = channel ∧ (reg.byId.get? x).isSome) ∨
        y ∈ reg.subscribersOf channel' := by
  unfold subscribe
  split
  · rename_i h
    simp [h]
  · rename_i conn h
    simp only [subscribersOf, mem_insertAt, h, Option.isSome_some, and_true]

theorem get_unsubscribe :
    (reg.unsubscribe x channel).byId.get? y = if y = x then (reg.byId.get? y).map (fun conn =>
      { conn with subscriptions := conn.subscriptions.discard channel })
      else reg.byId.get? y := Dict.get?_modify _ _ _ _

theorem mem_subscribersOf_unsubscribe :
    y ∈ (reg.unsubscribe x channel).subscribersOf channel' ↔
      ¬ (y = x ∧ channel' = channel) ∧ y ∈ reg.subscribersOf channel' :=
  mem_discardAt _ _ _ _ _

theorem get_remove :
    (reg.remove x).2.byId.get? y = if y = x then none else reg.byId.get? y := by
  unfold remove
  split
  · rename_i h
    split
    · rename_i hy
      rw [hy, h]
    · rfl
  · exact Dict.get?_erase _ _ _

theorem mem_foldl_discardAt : ∀ (l : List Channel) (index : Dict String (OSet ConnId)),
    y ∈ (l.foldl (fun index ch => discardAt index ch x) index).getD channel OSet.empty ↔
      ¬ (y = x ∧ channel ∈ l) ∧ y ∈ index.getD channel OSet.empty
  | [], index => by simp
  | ch :: l, index => by
    rw [List.foldl_cons, mem_foldl_discardAt l, mem_discardAt, List.mem_cons]
    tauto

theorem mem_subscribersOf_remove :
    y ∈ (reg.remove x).2.subscribersOf channel ↔
      ¬ (y = x ∧ ∃ conn, reg.byId.get? x = some conn ∧ channel ∈ conn.subscriptions) ∧
        y ∈ reg.subscribersOf channel := by
  unfold remove
  split
  · rename_i h
    simp [h]
  · rename_i conn h
    simp only [h, Option.some.injEq, exists_eq_left']
    exact mem_foldl_discardAt x y channel conn.subscriptions.elems reg.byChannel

/-- Registering a connection adds at most one to its tenant's count, and nothing to another's. -/
theorem tenantConnectionCount_add_le (conn : Connection) (tenantId : String) :
    (reg.add conn).tenantConnectionCount tenantId
      ≤ reg.tenantConnectionCount tenantId + if tenantId = conn.tenantId then 1 else 0 := by
  simp only [tenantConnectionCount, add, insertAt, Dict.getD_set]
  split
  · rename_i h
    rw [h]
    exact OSet.length_add_le _ _
  · exact Nat.le_refl _

theorem tenantConnectionCount_remove_le (tenantId : String) :
    (reg.remove x).2.tenantConnectionCount tenantId ≤ reg.tenantConnectionCount tenantId := by
  unfold remove
  split
  · exact Nat.le_refl _
  · rename_i conn _
    simp only [tenantConnectionCount, discardAt, Dict.getD, Dict.get?_modify]
    split
    · cases reg.byTenant.get? tenantId with
      | none => exact Nat.le_refl _
      | some ids => exact OSet.length_discard_le ids x
    · exact Nat.le_refl _

theorem mem_localSubscribers :
    x ∈ reg.localSubscribers channel ↔
      x ∈ reg.subscribersOf channel ∧ (reg.byId.get? x).isSome := by
  simp [localSubscribers, OSet.mem_def]

end Equations

theorem nodup_localSubscribers (reg : Registry) (channel : Channel) :
    (reg.localSubscribers channel).Nodup := (reg.subscribersOf channel).nodup.filter _

end Registry

end Relay
