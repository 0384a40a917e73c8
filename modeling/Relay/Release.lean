/-
# What a handler leaves in the registry

`registry.add` comes before the `try` whose `finally` undoes it, and `_cleanup_connection` awaits
Redis before it reaches `registry.remove`.  So a handler that ends has released its connection
exactly when no operation raised in either place: after `registry.add` and before the loop, or in
the cleanup before the removal.  An exception anywhere else -- before `registry.add`, or in the
loop -- is harmless.

The handler runs beside any programs that leave its own entries alone, which is what every other
task of the process does: `handleConnection_leaves` for the handlers of other connections,
`leaves_of_sameTables` for what only concerns queues and sockets.
-/
import Mathlib
import Relay.Lifecycle

namespace Relay

open Gateway

/-! ## 1. The three indexes as one -/

/-- The indexes of the registry. -/
inductive Index
  | session
  | tenant
  | channel
  deriving DecidableEq

/-- The ids an index holds at a key. -/
def Registry.ids (reg : Registry) : Index → String → OSet ConnId
  | .session, key => reg.bySession.getD key OSet.empty
  | .tenant, key => reg.byTenant.getD key OSet.empty
  | .channel, key => reg.byChannel.getD key OSet.empty

/-- The keys a connection belongs under. -/
def Connection.Under (conn : Connection) : Index → String → Prop
  | .session, key => key = conn.sessionId
  | .tenant, key => key = conn.tenantId
  | .channel, key => key ∈ conn.subscriptions

theorem Connection.under_ident {conn conn' : Connection} (h : conn'.ident = conn.ident)
    (i : Index) (key : String) : conn'.Under i key ↔ conn.Under i key := by
  have hs : conn'.sessionId = conn.sessionId := congrArg (fun q => q.1.sessionId) h
  have ht : conn'.tenantId = conn.tenantId := congrArg (fun q => q.1.tenantId) h
  have hc : conn'.subscriptions = conn.subscriptions := congrArg Prod.snd h
  cases i with
  | session => rw [Under, hs, Under]
  | tenant => rw [Under, ht, Under]
  | channel => rw [Under, hc, Under]

namespace Registry

variable {reg : Registry} {x y : ConnId} {i : Index} {key : String}

theorem mem_ids_add {conn : Connection} : y ∈ (reg.add conn).ids i key ↔
    (y = conn.connectionId ∧ i ≠ .channel ∧ conn.Under i key) ∨ y ∈ reg.ids i key := by
  cases i with
  | session => simpa [ids, add, Connection.Under] using mem_insertAt _ _ _ _ _
  | tenant => simpa [ids, add, Connection.Under] using mem_insertAt _ _ _ _ _
  | channel => simp [ids, add]

theorem mem_ids_subscribe {channel : Channel} : y ∈ (reg.subscribe x channel).ids i key ↔
    (y = x ∧ i = .channel ∧ key = channel ∧ (reg.byId.get? x).isSome) ∨ y ∈ reg.ids i key := by
  cases i with
  | session => unfold subscribe; split <;> simp [ids]
  | tenant => unfold subscribe; split <;> simp [ids]
  | channel => simpa [ids, subscribersOf] using mem_subscribersOf_subscribe reg x y channel key

theorem mem_ids_unsubscribe {channel : Channel} : y ∈ (reg.unsubscribe x channel).ids i key ↔
    ¬ (y = x ∧ i = .channel ∧ key = channel) ∧ y ∈ reg.ids i key := by
  cases i with
  | session => simp [ids, unsubscribe]
  | tenant => simp [ids, unsubscribe]
  | channel => simpa [ids, subscribersOf] using mem_subscribersOf_unsubscribe reg x y channel key

theorem mem_ids_remove : y ∈ (reg.remove x).2.ids i key ↔
    ¬ (y = x ∧ ∃ conn, reg.byId.get? x = some conn ∧ conn.Under i key) ∧ y ∈ reg.ids i key := by
  cases hx : reg.byId.get? x with
  | none => simp [remove, hx]
  | some conn =>
    have hchannel := mem_subscribersOf_remove reg x y key
    simp only [hx] at hchannel
    cases i with
    | session => simpa [ids, remove, hx, Connection.Under] using mem_discardAt _ _ _ _ _
    | tenant => simpa [ids, remove, hx, Connection.Under] using mem_discardAt _ _ _ _ _
    | channel => simpa [ids, Connection.Under, subscribersOf] using hchannel

/-! ## 2. Released and registered -/

/-- The id is nowhere in the registry. -/
structure Released (x : ConnId) (reg : Registry) : Prop where
  byId : reg.byId.get? x = none
  ids : ∀ i key, x ∉ reg.ids i key

/-- The id is in the table, and in an index only under the keys of its connection. -/
structure Registered (x : ConnId) (reg : Registry) : Prop where
  byId : (reg.byId.get? x).isSome = true
  ids : ∀ i key, x ∈ reg.ids i key → ∃ conn, reg.byId.get? x = some conn ∧ conn.Under i key

/-- The registry says the same about the id. -/
structure SameFor (x : ConnId) (reg reg' : Registry) : Prop where
  byId : (reg'.byId.get? x).map Connection.ident = (reg.byId.get? x).map Connection.ident
  ids : ∀ i key, x ∈ reg'.ids i key ↔ x ∈ reg.ids i key

variable {reg' : Registry}

theorem SameFor.refl (x : ConnId) (reg : Registry) : SameFor x reg reg :=
  ⟨rfl, fun _ _ => Iff.rfl⟩

theorem SameFor.trans {a b c : Registry} (h : SameFor x a b) (k : SameFor x b c) : SameFor x a c :=
  ⟨k.byId.trans h.byId, fun i key => (k.ids i key).trans (h.ids i key)⟩

theorem Released.same (h : Released x reg) (hs : SameFor x reg reg') : Released x reg' := by
  constructor
  · have := hs.byId
    rw [h.byId] at this
    exact Option.map_eq_none_iff.mp this
  · intro i key hx
    exact h.ids i key ((hs.ids i key).mp hx)

theorem Registered.same (h : Registered x reg) (hs : SameFor x reg reg') : Registered x reg' := by
  constructor
  · rw [← Option.isSome_map (f := Connection.ident), hs.byId, Option.isSome_map]
    exact h.byId
  · intro i key hx
    obtain ⟨conn, hconn, hunder⟩ := h.ids i key ((hs.ids i key).mp hx)
    have := hs.byId
    rw [hconn] at this
    obtain ⟨conn', hconn', hid⟩ := Option.map_eq_some_iff.mp this
    exact ⟨conn', hconn', (Connection.under_ident hid i key).mpr hunder⟩

theorem Registered.not_released (h : Registered x reg) : ¬ Released x reg := by
  intro hr
  have := h.byId
  rw [hr.byId] at this
  nomatch this

/-- `add` of an id that is nowhere. -/
theorem Released.add {conn : Connection} (h : Released conn.connectionId reg) :
    Registered conn.connectionId (reg.add conn) := by
  have hget : (reg.add conn).byId.get? conn.connectionId = some conn := by
    rw [get_add, if_pos rfl]
  constructor
  · rw [hget]; rfl
  · intro i key hx
    rcases mem_ids_add.mp hx with ⟨-, -, hunder⟩ | hold
    · exact ⟨conn, hget, hunder⟩
    · exact absurd hold (h.ids i key)

/-- `remove` finds the id in every index it is in. -/
theorem Registered.remove (h : Registered x reg) : Released x (reg.remove x).2 := by
  constructor
  · rw [get_remove, if_pos rfl]
  · intro i key hx
    obtain ⟨hnot, hold⟩ := mem_ids_remove.mp hx
    exact hnot ⟨rfl, h.ids i key hold⟩

theorem Registered.subscribe (h : Registered x reg) (channel : Channel) :
    Registered x (reg.subscribe x channel) := by
  obtain ⟨conn, hconn⟩ := Option.isSome_iff_exists.mp h.byId
  have hget : (reg.subscribe x channel).byId.get? x
      = some { conn with subscriptions := conn.subscriptions.add channel } := by
    rw [get_subscribe, if_pos rfl, hconn]; rfl
  constructor
  · rw [hget]; rfl
  · intro i key hx
    refine ⟨_, hget, ?_⟩
    rcases mem_ids_subscribe.mp hx with ⟨-, rfl, rfl, -⟩ | hold
    · exact OSet.mem_add.mpr (Or.inl rfl)
    · obtain ⟨conn', hconn', hunder⟩ := h.ids i key hold
      obtain rfl := Option.some.inj (hconn.symm.trans hconn')
      cases i with
      | session => exact hunder
      | tenant => exact hunder
      | channel => exact OSet.mem_add.mpr (Or.inr hunder)

theorem Registered.unsubscribe (h : Registered x reg) (channel : Channel) :
    Registered x (reg.unsubscribe x channel) := by
  obtain ⟨conn, hconn⟩ := Option.isSome_iff_exists.mp h.byId
  have hget : (reg.unsubscribe x channel).byId.get? x
      = some { conn with subscriptions := conn.subscriptions.discard channel } := by
    rw [get_unsubscribe, if_pos rfl, hconn]; rfl
  constructor
  · rw [hget]; rfl
  · intro i key hx
    refine ⟨_, hget, ?_⟩
    obtain ⟨hnot, hold⟩ := mem_ids_unsubscribe.mp hx
    obtain ⟨conn', hconn', hunder⟩ := h.ids i key hold
    obtain rfl := Option.some.inj (hconn.symm.trans hconn')
    cases i with
    | session => exact hunder
    | tenant => exact hunder
    | channel => exact OSet.mem_discard.mpr ⟨fun hk => hnot ⟨rfl, rfl, hk⟩, hunder⟩

/-- What is done for another id. -/
theorem sameFor_add {conn : Connection} (h : x ≠ conn.connectionId) : SameFor x reg (reg.add conn) :=
  ⟨by rw [get_add, if_neg h], fun i key => by simp [mem_ids_add, h]⟩

theorem sameFor_remove (h : x ≠ y) : SameFor x reg (reg.remove y).2 :=
  ⟨by rw [get_remove, if_neg h], fun i key => by simp [mem_ids_remove, h]⟩

theorem sameFor_subscribe (h : x ≠ y) (channel : Channel) :
    SameFor x reg (reg.subscribe y channel) :=
  ⟨by rw [get_subscribe, if_neg h], fun i key => by simp [mem_ids_subscribe, h]⟩

theorem sameFor_unsubscribe (h : x ≠ y) (channel : Channel) :
    SameFor x reg (reg.unsubscribe y channel) :=
  ⟨by rw [get_unsubscribe, if_neg h], fun i key => by simp [mem_ids_unsubscribe, h]⟩

theorem SameTables.sameFor (h : reg.SameTables reg') (x : ConnId) : SameFor x reg reg' := by
  refine ⟨h.conn x, fun i key => ?_⟩
  cases i with
  | session => simp only [Registry.ids, h.bySession]
  | tenant => simp only [Registry.ids, h.byTenant]
  | channel => simp only [Registry.ids, h.byChannel]

end Registry

/-! ## 3. What the segments of a handler do to it -/

/-- The handler of another connection leaves the entries of `x` alone. -/
theorem RegistryMove.sameFor {x y : ConnId} {lifecycle : Bool} {reg reg' : Registry} (hne : x ≠ y)
    (h : RegistryMove y lifecycle reg reg') : reg.SameFor x reg' := by
  cases h with
  | same h => exact h.sameFor x
  | subscribe channel => exact Registry.sameFor_subscribe hne channel
  | unsubscribe channel => exact Registry.sameFor_unsubscribe hne channel
  | add conn hy _ => exact Registry.sameFor_add (hy ▸ hne)
  | remove _ => exact Registry.sameFor_remove hne

/-- The body of the loop keeps its connection registered. -/
theorem RegistryMove.registered {x : ConnId} {reg reg' : Registry} (hr : reg.Registered x)
    (h : RegistryMove x false reg reg') : reg'.Registered x := by
  cases h with
  | same h => exact hr.same (h.sameFor x)
  | subscribe channel => exact hr.subscribe channel
  | unsubscribe channel => exact hr.unsubscribe channel
  | add conn _ hl => nomatch hl
  | remove hl => nomatch hl

/-- The entries of `x` are left alone. -/
def Leaves (x : ConnId) (g g' : Gateway) : Prop := g.node.registry.SameFor x g'.node.registry

theorem Leaves.refl (x : ConnId) (g : Gateway) : Leaves x g g := Registry.SameFor.refl x _

theorem Leaves.trans {x : ConnId} {a b c : Gateway} (h : Leaves x a b) (k : Leaves x b c) :
    Leaves x a c := Registry.SameFor.trans h k

/-- Parts of a handler that do not touch the tables leave every connection alone. -/
theorem leaves_of_sameTables {α : Type} {q : Prog Gateway Exn α}
    (h : q.Keeps (fun _ => True) SameTables) (x : ConnId) : q.Keeps (fun _ => True) (Leaves x) :=
  h.mono (fun _ _ _ hs => Registry.SameTables.sameFor hs x)

/-- A handler of another connection is a program that leaves `x` alone. -/
theorem handleConnection_leaves (env : Env) (s : Socket) (inputs : List Received) {x : ConnId}
    (hne : x ≠ s.connectionId) :
    (handleConnection env s inputs).Keeps (fun _ => True) (Leaves x) := by
  obtain ⟨tenantId, hauth⟩ := s.exists_tenant
  have hkeeps : (handleConnection env s inputs).Keeps (fun _ => True)
      (Effect env s.connectionId tenantId Scope.all) :=
    handleConnection_keeps (fun _ _ _ _ => trivial) rfl hauth (fun _ _ => trivial)
      (fun _ _ _ _ _ => trivial) (fun _ _ _ _ _ _ => trivial) (fun _ _ _ => rfl)
      (fun _ _ _ _ => trivial)
  exact hkeeps.mono (fun _ _ _ h => h.registryMove.sameFor hne)

/-- How a cleanup leaves the registry: it has released the connection if it returns, and has not
if it raises. -/
def Cleaned (x : ConnId) (outcome : Except Exn Unit) (g : Gateway) : Prop :=
  match outcome with
  | .ok _ => g.node.registry.Released x
  | .error _ => g.node.registry.Registered x

/-- **The removal is the last thing a cleanup does.**  Whatever runs in between, a cleanup that
raises has not come to it. -/
theorem cleanupConnection_wp (env : Env) (p : Peer) {g : Gateway}
    (h : g.node.registry.Registered p.connectionId) :
    (cleanupConnection env p).Wp (Leaves p.connectionId) (Cleaned p.connectionId) g := by
  rw [cleanupConnection_eq]
  have hbefore := Prog.wp_of_keeps (fun a b (ha : a.node.registry.Registered p.connectionId)
    (hl : Leaves p.connectionId a b) => ha.same hl)
    (leaves_of_sameTables (beforeRemoval_sameTables env p) _) (Prog.Returns.any _) h
  refine Prog.wp_bind_result (Leaves.refl _) (hbefore.mono ?_)
  rintro r g₁ ⟨hreg, -⟩
  constructor
  · intro b _ g₂ h₂ g₃ h₃
    have hremoved : (g₂.node.remove p.connectionId).registry.Released p.connectionId :=
      (hreg.same h₂).remove
    exact hremoved.same h₃
  · intro e _
    exact hreg

/-! ## 4. The invariant of a handler -/

namespace HandlerStage

variable {env : Env} {x : ConnId} {g g' : Gateway}

/-- What the registry says about `x` while its handler is at a stage, and what the rest of the
stage's part will do about it. -/
def Fits (x : ConnId) (g : Gateway) : HandlerStage → Prop
  | .refusing _ _ _ => g.node.registry.Released x
  | .checking c => c.socket.connectionId = x ∧ g.node.registry.Released x
  | .admitted c f k => c.socket.connectionId = x ∧ g.node.registry.Released x ∧
      (Prog.seg f k).Keeps (fun _ => True) (Leaves x)
  | .adding p _ => p.connectionId = x ∧ g.node.registry.Released x
  | .announcing p f k _ => p.connectionId = x ∧ g.node.registry.Registered x ∧
      (Prog.seg f k).Keeps (fun _ => True) (Leaves x)
  | .looking p _ => p.connectionId = x ∧ g.node.registry.Registered x
  | .serving p f k _ => p.connectionId = x ∧ g.node.registry.Registered x ∧
      (Prog.seg f k).Keeps (fun g => g.node.registry.Registered x) (fun _ _ => True)
  | .cleaning _ f k _ => (Prog.seg f k).Wp (Leaves x) (Cleaned x) g
  | .waiting _ => g.node.registry.Registered x
  | .ended _ => g.node.registry.Released x

/-- The handler has ended and its connection is still registered. -/
def Leaked (x : ConnId) (g : Gateway) (st : HandlerStage) : Prop :=
  g.node.registry.Registered x ∧ ∃ outcome, st = .ended outcome

/-- No operation raises now, if the handler is registered and outside of the `try`, or in its
cleanup. -/
def Undisturbed (g : Gateway) : HandlerStage → Bool
  | .announcing _ _ k _ => !(k g).raised
  | .cleaning _ _ k _ => !(k g).raised
  | _ => true

/-- Other tasks do not matter. -/
theorem Fits.leaves {st : HandlerStage} (h : Fits x g st) (hl : Leaves x g g') : Fits x g' st := by
  cases st with
  | refusing y code message => exact Registry.Released.same h hl
  | checking c => exact ⟨h.1, h.2.same hl⟩
  | admitted c f k => exact ⟨h.1, h.2.1.same hl, h.2.2⟩
  | adding p inputs => exact ⟨h.1, h.2.same hl⟩
  | announcing p f k inputs => exact ⟨h.1, h.2.1.same hl, h.2.2⟩
  | looking p inputs => exact ⟨h.1, h.2.same hl⟩
  | serving p f k rest => exact ⟨h.1, h.2.1.same hl, h.2.2⟩
  | cleaning p f k outcome =>
    exact Prog.Wp.stable (R := Leaves x) (fun _ _ _ h₁ h₂ => h₁.trans h₂) h hl
  | waiting p => exact Registry.Registered.same h hl
  | ended outcome => exact Registry.Released.same h hl

theorem fits_atCleanup {p : Peer} {outcome : Except Exn Unit} {q : Prog Gateway Exn Unit}
    (h : q.Wp (Leaves x) (Cleaned x) g) (hq : q.raised = false) :
    Fits x g (atCleanup p outcome q) := by
  cases q with
  | ret u => exact h g (Leaves.refl x g)
  | raise e => nomatch hq
  | seg f k => exact h

theorem fits_cleanup {p : Peer} (hp : p.connectionId = x) (h : g.node.registry.Registered x)
    (outcome : Except Exn Unit) : Fits x g (atCleanup p outcome (cleanupConnection env p)) := by
  subst hp
  exact fits_atCleanup (cleanupConnection_wp env p h) rfl

theorem fits_atBody {p : Peer} (hp : p.connectionId = x) (h : g.node.registry.Registered x)
    {rest : List Received} {q : Prog Gateway Exn Bool}
    (hq : q.Keeps (fun g => g.node.registry.Registered x) (fun _ _ => True)) :
    Fits x g (atBody env p rest q) := by
  match q with
  | .ret true => exact ⟨hp, h⟩
  | .ret false => exact fits_cleanup hp h _
  | .raise e => exact fits_cleanup hp h _
  | .seg f k => exact ⟨hp, h, hq⟩

theorem fits_atReceive {p : Peer} (hp : p.connectionId = x) (h : g.node.registry.Registered x)
    (inputs : List Received) : Fits x g (atReceive env p inputs) := by
  cases inputs with
  | nil => exact h
  | cons input rest =>
    subst hp
    exact fits_atBody rfl h ((onReceived_keeps input (fun _ _ hr hm => hm.registered hr)).mono
      (fun _ _ _ _ => trivial))

theorem fits_atAnnounce {p : Peer} (hp : p.connectionId = x) (h : g.node.registry.Registered x)
    {inputs : List Received} {q : Prog Gateway Exn Unit} (hq : q.Keeps (fun _ => True) (Leaves x))
    (hr : q.raised = false) : Fits x g (atAnnounce p inputs q) := by
  cases q with
  | ret u => exact ⟨hp, h⟩
  | raise e => nomatch hr
  | seg f k => exact ⟨hp, h, hq⟩

theorem fits_atResolve {c : Client} (hc : c.socket.connectionId = x)
    (h : g.node.registry.Released x) {q : Prog Gateway Exn String}
    (hq : q.Keeps (fun _ => True) (Leaves x)) : Fits x g (atResolve env c q) := by
  cases q with
  | ret sessionId => exact ⟨hc, h⟩
  | raise e => exact h
  | seg f k => exact ⟨hc, h, hq⟩

theorem welcome_raised (env : Env) (p : Peer) : (welcome env p).raised = false := by
  obtain ⟨connectionId, sessionId, tenantId, userId⟩ := p
  cases userId <;> rfl

/-- **One segment of the handler**, if nothing raises where it must not. -/
theorem Fits.next {st : HandlerStage} (h : Fits x g st) (hok : st.Undisturbed g = true) :
    Fits x (st.next env g).1 (st.next env g).2 := by
  cases st with
  | refusing y code message =>
    have hr : (setNode (g.node.sendText y (.error code message)).2 g).node.registry.Released x :=
      Registry.Released.same h ((Node.outbound_sendText y _ g.node).sameTables.sameFor x)
    simp only [HandlerStage.next, Stages.settle]
    split <;> exact hr
  | checking c =>
    simp only [HandlerStage.next]
    split
    · exact h.2
    · exact fits_atResolve h.1 h.2 (leaves_of_sameTables (withRedis_sameTables _) x)
  | admitted c f k =>
    obtain ⟨hc, hr, hk⟩ := h
    exact fits_atResolve hc (hr.same (hk g trivial).2.1) (hk g trivial).2.2
  | adding p inputs =>
    obtain ⟨rfl, hr⟩ := h
    have hadd : (g.node.add p.connection).registry.Registered p.connectionId :=
      @Registry.Released.add g.node.registry p.connection hr
    exact fits_atAnnounce rfl hadd (leaves_of_sameTables (welcome_sameTables env p) _)
      (welcome_raised env p)
  | announcing p f k inputs =>
    obtain ⟨hp, hr, hk⟩ := h
    exact fits_atAnnounce hp (hr.same (hk g trivial).2.1) (hk g trivial).2.2
      (by simpa [Undisturbed] using hok)
  | looking p inputs =>
    simp only [HandlerStage.next]
    split
    · exact fits_atReceive h.1 h.2 inputs
    · exact fits_cleanup h.1 h.2 _
  | serving p f k rest =>
    obtain ⟨hp, hr, hk⟩ := h
    exact fits_atBody hp (hk g hr).1 (hk g hr).2.2
  | cleaning p f k outcome =>
    exact fits_atCleanup (h g (Leaves.refl x g)) (by simpa [Undisturbed] using hok)
  | waiting p => exact h
  | ended outcome => exact h

/-- **One segment that raises where it must not** ends the handler with its connection
registered. -/
theorem Fits.next_leaked {st : HandlerStage} (h : Fits x g st) (hok : st.Undisturbed g ≠ true) :
    Leaked x (st.next env g).1 (st.next env g).2 := by
  cases st with
  | announcing p f k inputs =>
    obtain ⟨hp, hr, hk⟩ := h
    have hreg := hr.same (hk g trivial).2.1
    simp only [Undisturbed, Bool.not_eq_true', ne_eq, Bool.not_eq_false] at hok
    refine ⟨hreg, ?_⟩
    simp only [HandlerStage.next]
    cases hkg : k g with
    | raise e => exact ⟨_, rfl⟩
    | ret u => rw [hkg] at hok; cases hok
    | seg f' k' => rw [hkg] at hok; cases hok
  | cleaning p f k outcome =>
    have hwp := h g (Leaves.refl x g)
    simp only [Undisturbed, Bool.not_eq_true', ne_eq, Bool.not_eq_false] at hok
    simp only [HandlerStage.next]
    cases hkg : k g with
    | raise e =>
      rw [hkg] at hwp
      exact ⟨hwp _ (Leaves.refl x _), _, rfl⟩
    | ret u => rw [hkg] at hok; cases hok
    | seg f' k' => rw [hkg] at hok; cases hok
  | _ => exact absurd rfl hok

theorem fits_start (s : Socket) (inputs : List Received)
    (h : g.node.registry.Released s.connectionId) : Fits s.connectionId g (start s inputs) := by
  unfold start
  split
  · exact h
  · split
    · split
      · exact h
      · exact ⟨rfl, h⟩
    · exact h
  · exact h

end HandlerStage

/-! ## 5. Whole runs -/

/-- `handle_connection`, after what it awaits first: accepting the socket, its first frame, and the
database.  An exception there ends it at once. -/
def handleAfter (env : Env) (opening : Except Exn Unit) (s : Socket) (inputs : List Received) :
    Prog Gateway Exn Unit :=
  (Prog.ofExcept opening).bind fun _ => handleConnection env s inputs

/-- The stage it starts in. -/
def HandlerStage.startAfter (opening : Except Exn Unit) (s : Socket) (inputs : List Received) :
    HandlerStage :=
  match opening with
  | .ok _ => start s inputs
  | .error e => .ended (.error e)

theorem HandlerStage.prog_startAfter (env : Env) (opening : Except Exn Unit) (s : Socket)
    (inputs : List Received) :
    prog env (startAfter opening s inputs) = handleAfter env opening s inputs := by
  cases opening with
  | ok u => exact prog_start env s inputs
  | error e => rfl

/-- A handler and the other tasks of its process, as programs. -/
def handlerPool (env : Env) (opening : Except Exn Unit) (s : Socket) (inputs : List Received)
    (others : List (Prog Gateway Exn Unit)) (g : Gateway) : Pool Gateway Exn Unit :=
  ⟨g, handleAfter env opening s inputs :: others⟩

/-- The same, with the handler by its stage. -/
def handlerTasks (opening : Except Exn Unit) (s : Socket) (inputs : List Received)
    (others : List (Prog Gateway Exn Unit)) (g : Gateway) : Stages.Tasks Gateway GatewayTask :=
  ⟨g, .inl (HandlerStage.startAfter opening s inputs) :: others.map .inr⟩

theorem handlerTasks_toPool (env : Env) (opening : Except Exn Unit) (s : Socket)
    (inputs : List Received) (others : List (Prog Gateway Exn Unit)) (g : Gateway) :
    (handlerTasks opening s inputs others g).toPool (GatewayTask.prog env)
      = handlerPool env opening s inputs others g := by
  simp only [Stages.Tasks.toPool, handlerTasks, handlerPool, List.map_cons, List.map_map,
    Stages.besideProg, HandlerStage.prog_startAfter]
  congr 2
  exact List.map_id _

/-- The handler is the first task. -/
def handlerStage? (t : Stages.Tasks Gateway GatewayTask) : Option HandlerStage :=
  match t.stages with
  | .inl st :: _ => some st
  | _ => none

/-- If the handler is next, nothing raises where it must not. -/
def Undisturbed (t : Stages.Tasks Gateway GatewayTask) (i : Nat) : Prop :=
  i = 0 → ∀ st ∈ handlerStage? t, st.Undisturbed t.state = true

instance (t : Stages.Tasks Gateway GatewayTask) (i : Nat) : Decidable (Undisturbed t i) :=
  inferInstanceAs (Decidable (i = 0 → _))

/-- The handler fits the registry, beside programs that leave its connection alone. -/
def HandlerFits (x : ConnId) (t : Stages.Tasks Gateway GatewayTask) : Prop :=
  ∃ st rest, t.stages = .inl st :: rest ∧ st.Fits x t.state ∧ Stages.Tasks.Movers (Leaves x) rest

/-- The handler has ended without releasing its connection. -/
def HandlerLeaked (x : ConnId) (t : Stages.Tasks Gateway GatewayTask) : Prop :=
  ∃ st rest, t.stages = .inl st :: rest ∧ st.Leaked x t.state ∧ Stages.Tasks.Movers (Leaves x) rest

section Runs

variable {env : Env} {x : ConnId} {t : Stages.Tasks Gateway GatewayTask} {i : Nat}

theorem handlerFits_step (h : HandlerFits x t) (hok : Undisturbed t i) :
    HandlerFits x (GatewayTask.step env t i) := by
  obtain ⟨g, stages⟩ := t
  obtain ⟨st, rest, rfl, hfits, hrest⟩ := h
  rcases Stages.Tasks.step_beside (Leaves.refl x) (HandlerStage.next env) st g hrest i with
    ⟨rfl, hstep⟩ | ⟨-, g', rest', hl, hrest', hstep⟩
  · rw [GatewayTask.step, hstep]
    exact ⟨_, _, rfl, hfits.next (hok rfl st rfl), hrest⟩
  · rw [GatewayTask.step, hstep]
    exact ⟨_, _, rfl, hfits.leaves hl, hrest'⟩

theorem handlerLeaked_of_disturbed (h : HandlerFits x t) (hok : ¬ Undisturbed t i) :
    HandlerLeaked x (GatewayTask.step env t i) := by
  obtain ⟨g, stages⟩ := t
  obtain ⟨st, rest, rfl, hfits, hrest⟩ := h
  rcases Stages.Tasks.step_beside (Leaves.refl x) (HandlerStage.next env) st g hrest i with
    ⟨rfl, hstep⟩ | ⟨hi, -⟩
  · rw [GatewayTask.step, hstep]
    refine ⟨_, _, rfl, hfits.next_leaked (fun hst => hok ?_), hrest⟩
    rintro - st' hst'
    exact Option.some.inj hst' ▸ hst
  · exact absurd (fun h0 => absurd h0 hi) hok

theorem handlerLeaked_step (h : HandlerLeaked x t) : HandlerLeaked x (GatewayTask.step env t i) := by
  obtain ⟨g, stages⟩ := t
  obtain ⟨st, rest, rfl, ⟨hreg, outcome, rfl⟩, hrest⟩ := h
  rcases Stages.Tasks.step_beside (Leaves.refl x) (HandlerStage.next env) _ g hrest i with
    ⟨rfl, hstep⟩ | ⟨-, g', rest', hl, hrest', hstep⟩
  · rw [GatewayTask.step, hstep]
    exact ⟨_, _, rfl, ⟨hreg, outcome, rfl⟩, hrest⟩
  · rw [GatewayTask.step, hstep]
    exact ⟨_, _, rfl, ⟨hreg.same hl, outcome, rfl⟩, hrest'⟩

end Runs

/-- **A handler that has ended has released its connection exactly when nothing raised between
`registry.add` and the loop, nor in its cleanup.**  For every socket and every input, whatever the
first awaits do, whichever commands and writes fail, and whatever the other tasks of the process do
in between. -/
theorem released_iff_undisturbed (env : Env) (opening : Except Exn Unit) (s : Socket)
    (inputs : List Received) (others : List (Prog Gateway Exn Unit))
    (hothers : ∀ q ∈ others, q.Keeps (fun _ => True) (Leaves s.connectionId)) (g : Gateway)
    (hfresh : g.node.registry.Released s.connectionId) (sched : List Nat) :
    (handlerPool env opening s inputs others g).exec sched
        = (runAll (GatewayTask.step env) (handlerTasks opening s inputs others g) sched).toPool
          (GatewayTask.prog env) ∧
      ∀ outcome, handlerStage? (runAll (GatewayTask.step env)
          (handlerTasks opening s inputs others g) sched) = some (.ended outcome) →
        ((runAll (GatewayTask.step env) (handlerTasks opening s inputs others g)
            sched).state.node.registry.Released s.connectionId ↔
          Along (GatewayTask.step env) Undisturbed (handlerTasks opening s inputs others g)
            sched) := by
  constructor
  · rw [← handlerTasks_toPool]
    exact GatewayTask.exec_pool env sched _
  · intro outcome hend
    have hstart : HandlerFits s.connectionId (handlerTasks opening s inputs others g) := by
      refine ⟨_, _, rfl, ?_, Stages.Tasks.movers_map hothers⟩
      cases opening with
      | ok u => exact HandlerStage.fits_start s inputs hfresh
      | error e => exact hfresh
    rcases runAll_along_or (fun t i => handlerFits_step) (fun t i => handlerLeaked_of_disturbed)
        (fun t i => handlerLeaked_step) sched _ hstart with ⟨halong, hfits⟩ | ⟨hnot, hleaked⟩
    · refine ⟨fun _ => halong, fun _ => ?_⟩
      obtain ⟨st, rest, hst, hfits, -⟩ := hfits
      simp only [handlerStage?, hst] at hend
      obtain rfl := Option.some.inj hend
      exact hfits
    · obtain ⟨st, rest, -, ⟨hreg, -⟩, -⟩ := hleaked
      exact ⟨fun hr => absurd hr hreg.not_released, fun h => absurd h hnot⟩

/-- A CONNECT frame of a user, and the socket it comes on. -/
def userSocket : Socket where
  connectionId := "conn-a"
  newSessionId := "sess-a"
  connect := some (.obj [("type", .str FrameType.connect.value), ("token", .str "k"),
    ("user_id", .str "u")])
  authenticate := .ok "t"

/-- A client that connects and goes away again is released, after thirteen segments. -/
theorem closed_connection_released :
    (runAll (GatewayTask.step (.plain {})) (handlerTasks (.ok ()) userSocket [.closed] [] ⟨{}, {}⟩)
      (List.replicate 13 0)).state.node.registry.Released "conn-a" := by
  have hfresh : ({} : Registry).Released "conn-a" := by
    refine ⟨rfl, fun i key => ?_⟩
    cases i <;> exact OSet.not_mem_empty _
  refine ((released_iff_undisturbed (.plain {}) (.ok ()) userSocket [.closed] []
    (fun q hq => absurd hq List.not_mem_nil) ⟨{}, {}⟩ hfresh (List.replicate 13 0)).2 (.ok ())
    rfl).mpr ?_
  decide +kernel

/-- **Three exits that keep the connection.**  Redis fails in `connection_online`, after
`registry.add`; the socket fails under the CONNECTED frame; Redis fails in `connection_offline`, in
the cleanup after a disconnect.  Each time `handle_connection` has raised, and the tenant is still
charged for the connection. -/
theorem failed_exits_leak :
    let online := (handleConnection (.plain {}) userSocket [.closed]).run
      ⟨{ faults := [false, false, true] }, {}⟩
    let connected := (handleConnection (.plain {}) userSocket [.closed]).run
      ⟨{}, { socketFaults := [true] }⟩
    let offline := (handleConnection (.plain {}) userSocket [.closed]).run
      ⟨{ faults := [false, false, false, true] }, {}⟩
    (online.1 = .error .redis ∧ (online.2.node.registry.byId.get? "conn-a").isSome = true ∧
        online.2.node.registry.tenantConnectionCount "t" = 1) ∧
      (connected.1 = .error .socket ∧
        (connected.2.node.registry.byId.get? "conn-a").isSome = true ∧
        connected.2.node.registry.tenantConnectionCount "t" = 1) ∧
      (offline.1 = .error .redis ∧ (offline.2.node.registry.byId.get? "conn-a").isSome = true ∧
        offline.2.node.registry.tenantConnectionCount "t" = 1) := by
  decide +kernel

end Relay
