/-
# Presence on a clock

A user's presence set carries one TTL for all of the user's connections: `connection_online` and
`refresh` set it, and when it lapses the whole set is gone.  Nothing in the set says which
connection is alive.  Two promises of `presence/tracker.py` depend on the time.

* A connection that dies without `connection_offline` is to be forgotten within the TTL.  It is
  not if a sibling connection comes online or heartbeats meanwhile, since this extends the life of
  the whole set, the dead member included (`dead_member_kept`).  `staleness_bounded` says that this
  is the only way.
* After a heartbeat the user is to be present.  `refresh` is two EXPIREs, and EXPIRE on a key that
  is not there does nothing: a heartbeat that comes after the set has lapsed, or after a sibling
  has deleted it, does not bring it back (`late_heartbeat`).  `heartbeat_present` says that the user
  is present after a heartbeat exactly if the set was there before it.
-/
import Mathlib
import Relay.Handler
import Relay.PresenceTracker

namespace Relay

open Redis Presence Stages

/-! ## 1. Connections that heartbeat and die -/

/-- A connection of a user, and when it died if it did. -/
structure Life where
  tenantId : String
  userId : String
  stage : LifeStage
  died : Option Nat := none

namespace Life

/-- The connection. -/
def conn (l : Life) : ConnId := l.stage.conn

/-- The connection is registered and serves frames. -/
def serving (l : Life) : Bool := l.died.isNone && decide (l.stage = .online l.conn)

/-- The next command of `connection_online` or `connection_offline`; a dead connection has none. -/
def next (env : Env) (l : Life) (r : Redis) : Redis × Life :=
  if l.died.isNone then
    let out := LifeStage.next env l.tenantId l.userId l.stage r
    (out.1, { l with stage := out.2 })
  else (r, l)

/-- The process of the connection is killed. -/
def die (now : Nat) (l : Life) : Life :=
  if l.died.isNone then { l with died := some now } else l

/-- The connection died longer ago than the TTL. -/
def longDead (env : Env) (now : Nat) (l : Life) : Bool :=
  l.died.any (fun t => decide (t + env.settings.presenceTtlSeconds * 1000000 < now))

end Life

/-- What can happen to the connections of any users, and the clock. -/
inductive BeatAct
  /-- The next command of connection `i`: it comes online, or goes on with going offline. -/
  | move (i : Nat)
  /-- The `refresh` that ends the handling of a PONG. -/
  | pong (i : Nat)
  /-- The `set_state` of a PRESENCE frame. -/
  | report (i : Nat) (idle : Bool)
  /-- Connection `i` dies without `connection_offline`, or in the middle of it. -/
  | die (i : Nat)
  | tick (micros : Nat)
  deriving DecidableEq, Repr

namespace Beats

/-- What connection `i` serves a frame for, if it does. -/
def serving (w : Tasks Redis Life) (i : Nat) : Option Life := w.stages[i]?.filter Life.serving

/-- Run a command of connection `i`, if it serves frames. -/
def serve (p : Life → Prog Redis Exn Unit) (w : Tasks Redis Life) (i : Nat) : Tasks Redis Life :=
  match serving w i with
  | some l => { w with state := ((p l).run w.state).2 }
  | none => w

/-- One step. -/
def step (env : Env) (w : Tasks Redis Life) : BeatAct → Tasks Redis Life
  | .move i => w.step (Life.next env) i
  | .pong i => serve (fun l => refresh env l.tenantId l.userId) w i
  | .report i idle => serve (fun l => setState env l.tenantId l.userId idle) w i
  | .die i => { w with stages := w.stages.modify i (Life.die w.state.now) }
  | .tick d => { w with state := { w.state with now := w.state.now + d } }

/-- The connections `ids` of a user, none of them online yet. -/
def start (tenantId userId : String) (r : Redis) (ids : List ConnId) : Tasks Redis Life :=
  ⟨r, ids.map (fun x => ⟨tenantId, userId, .away x, none⟩)⟩

end Beats

/-- The PONG branch does to presence what `refresh` does: `touch_session` writes the session only. -/
theorem onPong_presence (env : Env) (p : Peer) {userId : String} (h : p.userId = some userId)
    {g : Gateway} (hup : g.redis.faults = []) :
    ((onPong env p).run g).1 = .ok true ∧
      ((onPong env p).run g).2.redis.presence =
        ((refresh env p.tenantId userId).run g.redis).2.presence ∧
      ((onPong env p).run g).2.redis.now = ((refresh env p.tenantId userId).run g.redis).2.now := by
  simp [onPong, h, whenUser, Gateway.run_withRedis, Prog.run_bind, Sessions.touchSession, refresh,
    command, Prog.run_atomic, attempt, hup, Gateway.setNode, setSession, expireKey, setPresence,
    Gateway.setRedis]

/-! ## 2. The time a key is there -/

section Lapse

variable {env : Env} {k : String} {x : ConnId} {r : Redis}

/-- After time `b` the key is gone, if nobody touches it. -/
def Lapses (k : String) (b : Nat) (r : Redis) : Prop :=
  ∀ m, b < m → Timed.live m (r.presence k) = none

theorem Lapses.mono {b b' : Nat} (h : Lapses k b r) (hle : b ≤ b') : Lapses k b' r :=
  fun m hm => h m (lt_of_le_of_lt hle hm)

/-- A key that is there was there before. -/
theorem live_anti {α : Type} {m m' : Nat} (hle : m ≤ m') {t : Option (Timed α)} {v : α}
    (h : Timed.live m' t = some v) : Timed.live m t = some v := by
  rcases t with _ | ⟨u, _ | d⟩
  · cases h
  · exact h
  · simp only [Timed.live] at h ⊢
    split at h
    · rename_i hlt
      rw [if_pos (by omega)]
      exact h
    · cases h

theorem lapses_expire {α : Type} {now ttl m : Nat} (hm : now + ttl * 1000000 < m)
    (t : Option (Timed α)) : Timed.live m (Timed.expire now ttl t) = none := by
  unfold Timed.expire
  cases Timed.live now t with
  | none => rfl
  | some v => exact Timed.live_lasting_of_lt hm v

theorem lapses_expireKey (ttl : Nat) (r : Redis) :
    Lapses k (r.now + ttl * 1000000) (expireKey k ttl r) := by
  intro m hm
  simp only [expireKey, setPresence, Function.update_self]
  exact lapses_expire hm _

/-- A value written in place lapses with the old one. -/
theorem live_deadlineOf_none {α : Type} {now m : Nat} {t : Option (Timed α)} {v : α} (w : α)
    (hv : Timed.live now t = some v) (h : Timed.live m t = none) :
    Timed.live m (some ⟨w, Timed.deadlineOf now t⟩) = none := by
  rcases t with _ | ⟨u, _ | d⟩
  · cases hv
  · cases h
  · have hd : Timed.deadlineOf now (some ⟨u, some d⟩) = some d := by
      simp only [Timed.deadlineOf, hv]
    rw [hd]
    simp only [Timed.live] at h ⊢
    split at h
    · cases h
    · rename_i hlt
      rw [if_neg hlt]

theorem lapses_removeMember {b : Nat} (h : Lapses k b r) (x : ConnId) :
    Lapses k b (removeMember k x r).2 := by
  intro m hm
  unfold removeMember
  cases hl : Timed.live r.now (r.presence k) with
  | none => exact h m hm
  | some v =>
    cases v with
    | str s => exact h m hm
    | set s =>
      simp only [setPresence, Function.update_self]
      split
      · rfl
      · exact live_deadlineOf_none _ hl (h m hm)

end Lapse

/-! ## 3. What a command does to the set -/

section Commands

variable {env : Env} {tenantId userId : String} {x : ConnId} {r r' : Redis}

theorem key_ne_stateKey (tenantId userId : String) :
    key tenantId userId ≠ stateKey tenantId userId := by
  intro h
  have hlen := congrArg String.length h
  simp only [stateKey, String.length_append] at hlen
  have hstate : (":state" : String).length = 6 := by decide
  omega

/-- The key holds a string or nothing. -/
def HoldsString (k : String) (r : Redis) : Prop :=
  ∀ s, Timed.live r.now (r.presence k) ≠ some (.set s)

instance (k : String) (r : Redis) : Decidable (HoldsString k r) :=
  match h : Timed.live r.now (r.presence k) with
  | some (.set s) => isFalse (fun hk => hk s h)
  | some (.str _) => isTrue (fun _ hk => nomatch h.symm.trans hk)
  | none => isTrue (fun _ hk => nomatch h.symm.trans hk)

/-- The user's set key holds no string, and its state key no set. -/
structure Typed (tenantId userId : String) (r : Redis) : Prop where
  set : HoldsSet (key tenantId userId) r
  state : HoldsString (stateKey tenantId userId) r

/-- A command at one moment that may take members away, and does not make the set last longer. -/
structure Shrinks (tenantId userId : String) (r r' : Redis) : Prop where
  now : r'.now = r.now
  up : r.faults = [] → r'.faults = []
  typed : Typed tenantId userId r → Typed tenantId userId r'
  members : ∀ y, y ∈ members (key tenantId userId) r' → y ∈ members (key tenantId userId) r
  lapses : ∀ b, Lapses (key tenantId userId) b r → Lapses (key tenantId userId) b r'

/-- A command that may add a member, and makes the set last for the TTL from now on. -/
structure Extends (env : Env) (tenantId userId : String) (new : Option ConnId) (r r' : Redis) :
    Prop where
  now : r'.now = r.now
  up : r.faults = [] → r'.faults = []
  typed : Typed tenantId userId r → Typed tenantId userId r'
  members : ∀ y, y ∈ members (key tenantId userId) r' →
    new = some y ∨ y ∈ members (key tenantId userId) r
  lapses : Lapses (key tenantId userId) (r.now + env.settings.presenceTtlSeconds * 1000000) r'

theorem Shrinks.refl (r : Redis) : Shrinks tenantId userId r r :=
  ⟨rfl, id, id, fun _ => id, fun _ => id⟩

/-- Only the set key is written. -/
theorem Typed.of_set (h : Typed tenantId userId r) {v : Option (Timed PresenceValue)}
    (hv : ∀ s, Timed.live r.now v ≠ some (.str s)) :
    Typed tenantId userId (r.setPresence (key tenantId userId) v) := by
  refine ⟨holdsSet_setPresence hv, fun s => ?_⟩
  simpa [setPresence, (key_ne_stateKey tenantId userId).symm] using h.state s

/-- Only the state key is written. -/
theorem shrinks_state {v : Option (Timed PresenceValue)}
    (hv : Typed tenantId userId r → ∀ s, Timed.live r.now v ≠ some (.set s)) :
    Shrinks tenantId userId r (r.setPresence (stateKey tenantId userId) v) := by
  have hkey : (r.setPresence (stateKey tenantId userId) v).presence (key tenantId userId) =
      r.presence (key tenantId userId) := by
    simp [setPresence, key_ne_stateKey tenantId userId]
  refine ⟨rfl, id, fun h => ⟨fun s => ?_, fun s => ?_⟩, fun y => ?_, fun b h m hm => ?_⟩
  · rw [hkey]
    exact h.set s
  · simpa [setPresence] using hv h s
  · rw [members, members, hkey]
    exact id
  · rw [hkey]
    exact h m hm

theorem Shrinks.trans {r'' : Redis} (h : Shrinks tenantId userId r r')
    (h' : Shrinks tenantId userId r' r'') : Shrinks tenantId userId r r'' :=
  ⟨h'.now.trans h.now, h'.up ∘ h.up, h'.typed ∘ h.typed, fun y hy => h.members y (h'.members y hy),
    fun b hb => h'.lapses b (h.lapses b hb)⟩

theorem Extends.trans_shrinks {new : Option ConnId} {r'' : Redis}
    (h : Extends env tenantId userId new r r') (h' : Shrinks tenantId userId r' r'') :
    Extends env tenantId userId new r r'' :=
  ⟨h'.now.trans h.now, h'.up ∘ h.up, h'.typed ∘ h.typed, fun y hy => h.members y (h'.members y hy),
    h'.lapses _ h.lapses⟩

theorem shrinks_removeMember (tenantId userId : String) (x : ConnId) (r : Redis) :
    Shrinks tenantId userId r (removeMember (key tenantId userId) x r).2 := by
  refine ⟨?_, ?_, fun h => ?_, fun y hy => ?_, fun b h => lapses_removeMember h x⟩
  · unfold removeMember
    split <;> rfl
  · unfold removeMember
    split <;> exact id
  · unfold removeMember
    split
    · exact h
    · rename_i s hl
      refine h.of_set (fun s' => ?_)
      split
      · simp [Timed.live]
      · simp [Timed.live_deadlineOf hl]
    · exact h
  · by_cases hset : HoldsSet (key tenantId userId) r
    · obtain ⟨r', hrun, -, -, hmem⟩ := removeMember_spec (x := x) hset
      rw [hrun] at hy
      exact ((hmem y).mp hy).2
    · simp only [HoldsSet, not_forall, not_not] at hset
      obtain ⟨s, hs⟩ := hset
      simpa [removeMember, hs] using hy

theorem shrinks_deleteUser (tenantId userId : String) (r : Redis) :
    Shrinks tenantId userId r (LifeStage.deleteUser tenantId userId r).2 := by
  have hset : Shrinks tenantId userId r (deleteKey (key tenantId userId) r) := by
    refine ⟨rfl, id, fun h => h.of_set (by simp [Timed.live]), fun y hy => ?_, fun b _ m _ => ?_⟩
    · simp [deleteKey, members, setPresence, Timed.live] at hy
    · simp [deleteKey, setPresence, Timed.live]
  exact hset.trans (shrinks_state (fun _ => by simp [Timed.live]))

theorem extends_expireKey (httl : 0 < env.settings.presenceTtlSeconds) (tenantId userId : String)
    (r : Redis) :
    Extends env tenantId userId none r
      (expireKey (key tenantId userId) env.settings.presenceTtlSeconds r) := by
  refine ⟨rfl, id, fun h => h.of_set (fun s => ?_), fun y hy => Or.inr ?_, lapses_expireKey _ r⟩
  · rw [live_expire httl]
    exact h.set s
  · rw [expireKey, members_setPresence, live_expire httl] at hy
    exact hy

theorem extends_setOnline (httl : 0 < env.settings.presenceTtlSeconds) (tenantId userId : String)
    (x : ConnId) (r : Redis) :
    Extends env tenantId userId (some x) r (LifeStage.setOnline env tenantId userId x r).2 := by
  have hnow : (addMember (key tenantId userId) x r).2.now = r.now := by
    unfold addMember
    split <;> rfl
  have hup : (addMember (key tenantId userId) x r).2.faults = r.faults := by
    unfold addMember
    split <;> rfl
  have hext := extends_expireKey httl tenantId userId
    (addMember (key tenantId userId) x r).2
  refine ⟨hext.now.trans hnow, fun h => hext.up (hup.trans h), fun h => hext.typed ?_, fun y hy => ?_,
    hnow ▸ hext.lapses⟩
  · unfold addMember
    split
    · exact h
    · rename_i s hl
      exact h.of_set (by simp [Timed.live_deadlineOf hl])
    · exact h.of_set (by simp [Timed.live])
  · rcases hext.members y hy with hy | hy
    · cases hy
    unfold addMember at hy
    split at hy
    · exact Or.inr hy
    · rename_i s hl
      rw [members_setPresence, Timed.live_deadlineOf hl] at hy
      rcases OSet.mem_add.mp hy with rfl | hy
      · exact Or.inl rfl
      · exact Or.inr (by rw [members, hl]; exact hy)
    · rw [members_setPresence] at hy
      have : y = x := by simpa [Timed.live, ← OSet.mem_def] using hy
      exact Or.inl (congrArg some this.symm)

theorem extends_refresh (httl : 0 < env.settings.presenceTtlSeconds) (tenantId userId : String)
    {r : Redis} (hup : r.faults = []) :
    Extends env tenantId userId none r ((refresh env tenantId userId).run r).2 := by
  simp only [refresh, command, Prog.run_atomic, attempt_up _ hup]
  refine (extends_expireKey httl tenantId userId r).trans_shrinks (shrinks_state (fun h s => ?_))
  rw [live_expire httl]
  exact h.state s

theorem shrinks_setState (env : Env) (tenantId userId : String) (idle : Bool) {r : Redis}
    (hup : r.faults = []) :
    Shrinks tenantId userId r ((setState env tenantId userId idle).run r).2 := by
  unfold setState
  split
  · simp only [command, Prog.run_atomic, attempt_up _ hup]
    refine shrinks_state (fun _ s hs => ?_)
    obtain ⟨t, ht, hval⟩ := Timed.live_val hs
    rw [Timed.val_lasting ht] at hval
    cases hval
  · simp only [command, Prog.run_atomic, attempt_up _ hup]
    exact shrinks_state (fun _ => by simp [Timed.live])

end Commands

/-! ## 4. Dead connections -/

section Dead

variable {env : Env} {tenantId userId : String} {w : Tasks Redis Life}

/-- The user whose set a step makes last longer. -/
def Beats.extended (w : Tasks Redis Life) : BeatAct → Option Life
  | .move i => w.stages[i]?.filter (fun l => l.died.isNone && decide (l.stage = .away l.conn))
  | .pong i => Beats.serving w i
  | _ => none

/-- No connection comes online and none heartbeats while a dead connection is in the user's set. -/
def NotExtended (w : Tasks Redis Life) (a : BeatAct) : Prop :=
  ∀ l ∈ Beats.extended w a, ∀ other ∈ w.stages, other.died.isSome →
    other.conn ∉ members (key l.tenantId l.userId) w.state

instance (w : Tasks Redis Life) (a : BeatAct) : Decidable (NotExtended w a) := by
  unfold NotExtended
  infer_instance

/-- What the connections of one user say about its set. -/
structure Leased (env : Env) (tenantId userId : String) (w : Tasks Redis Life) : Prop where
  up : w.state.faults = []
  user : ∀ l ∈ w.stages, l.tenantId = tenantId ∧ l.userId = userId
  ids : (w.stages.map Life.conn).Nodup
  typed : Typed tenantId userId w.state
  online : ∀ x ∈ members (key tenantId userId) w.state, ∃ l ∈ w.stages, l.stage = .online x
  lease : Lapses (key tenantId userId)
    (w.state.now + env.settings.presenceTtlSeconds * 1000000) w.state
  dead : ∀ l ∈ w.stages, ∀ t ∈ l.died, l.conn ∈ members (key tenantId userId) w.state →
    Lapses (key tenantId userId) (t + env.settings.presenceTtlSeconds * 1000000) w.state

/-- What a connection is, whatever its stage. -/
def Life.ident (l : Life) : String × String × ConnId × Option Nat :=
  (l.tenantId, l.userId, l.conn, l.died)

/-- A life of the new list is one of the old list at another stage. -/
theorem exists_of_ident {ls ls' : List Life} (h : ls'.map Life.ident = ls.map Life.ident) {l' : Life}
    (hl' : l' ∈ ls') : ∃ l ∈ ls, l.tenantId = l'.tenantId ∧ l.userId = l'.userId ∧
      l.conn = l'.conn ∧ l.died = l'.died := by
  have hmem : l'.ident ∈ ls.map Life.ident := h ▸ List.mem_map_of_mem hl'
  obtain ⟨l, hl, heq⟩ := List.mem_map.mp hmem
  simp only [Life.ident, Prod.mk.injEq] at heq
  exact ⟨l, hl, heq⟩

theorem conn_of_ident {ls ls' : List Life} (h : ls'.map Life.ident = ls.map Life.ident) :
    ls'.map Life.conn = ls.map Life.conn := by
  have := congrArg (List.map (fun p : String × String × ConnId × Option Nat => p.2.2.1)) h
  simpa [List.map_map, Function.comp_def, Life.ident] using this

/-- A command that shrinks the set. -/
theorem Leased.shrinks (h : Leased env tenantId userId w) {r' : Redis}
    (hr : Shrinks tenantId userId w.state r') {ls' : List Life}
    (hident : ls'.map Life.ident = w.stages.map Life.ident)
    (honline : ∀ x ∈ members (key tenantId userId) r', ∃ l ∈ ls', l.stage = .online x) :
    Leased env tenantId userId ⟨r', ls'⟩ where
  up := hr.up h.up
  user := by
    intro l' hl'
    obtain ⟨l, hl, ht, hu, -⟩ := exists_of_ident hident hl'
    rw [← ht, ← hu]
    exact h.user l hl
  ids := conn_of_ident hident ▸ h.ids
  typed := hr.typed h.typed
  online := honline
  lease := by
    simp only [hr.now]
    exact hr.lapses _ h.lease
  dead := by
    intro l' hl' t ht hmem
    obtain ⟨l, hl, -, -, hconn, hdied⟩ := exists_of_ident hident hl'
    refine hr.lapses _ (h.dead l hl t (hdied ▸ ht) ?_)
    rw [hconn]
    exact hr.members _ hmem

/-- A command that extends the set while no dead connection is in it. -/
theorem Leased.extends (h : Leased env tenantId userId w) {r' : Redis} {new : Option ConnId}
    (hr : Extends env tenantId userId new w.state r') {ls' : List Life}
    (hident : ls'.map Life.ident = w.stages.map Life.ident)
    (honline : ∀ x ∈ members (key tenantId userId) r', ∃ l ∈ ls', l.stage = .online x)
    (hnew : ∀ l ∈ w.stages, l.died.isSome → new ≠ some l.conn)
    (hspare : ∀ l ∈ w.stages, l.died.isSome → l.conn ∉ members (key tenantId userId) w.state) :
    Leased env tenantId userId ⟨r', ls'⟩ where
  up := hr.up h.up
  user := by
    intro l' hl'
    obtain ⟨l, hl, ht, hu, -⟩ := exists_of_ident hident hl'
    rw [← ht, ← hu]
    exact h.user l hl
  ids := conn_of_ident hident ▸ h.ids
  typed := hr.typed h.typed
  online := honline
  lease := by
    simp only [hr.now]
    exact hr.lapses
  dead := by
    intro l' hl' t ht hmem
    obtain ⟨l, hl, -, -, hconn, hdied⟩ := exists_of_ident hident hl'
    have hdead : l.died.isSome := by
      rw [hdied]
      exact Option.isSome_of_mem ht
    rw [← hconn] at hmem
    rcases hr.members _ hmem with hm | hm
    · exact absurd hm (hnew l hl hdead)
    · exact absurd hm (hspare l hl hdead)

/-- The next command of a living connection. -/
theorem LifeStage.next_effect (httl : 0 < env.settings.presenceTtlSeconds) (st : LifeStage)
    {r : Redis} (hup : r.faults = []) (ht : Typed tenantId userId r) :
    (∃ x r', st = .away x ∧ next env tenantId userId st r = (r', .online x) ∧
      Extends env tenantId userId (some x) r r') ∨
    ∃ r' st', (∀ x, st ≠ .away x) ∧ next env tenantId userId st r = (r', st') ∧
      Shrinks tenantId userId r r' ∧ st'.conn = st.conn ∧
      (∀ x, st = .online x → x ∉ members (key tenantId userId) r') := by
  cases st with
  | away x =>
    obtain ⟨r', hrun, -⟩ := setOnline_spec (x := x) httl ht.set
    have hext := extends_setOnline httl tenantId userId x r
    rw [hrun] at hext
    refine Or.inl ⟨x, r', rfl, ?_, hext⟩
    simp only [next, attempt_up _ hup, hrun, settle]
  | online x =>
    obtain ⟨r', hrun, -, -, hmem⟩ := removeMember_spec (x := x) ht.set
    have hshr := shrinks_removeMember tenantId userId x r
    rw [hrun] at hshr
    refine Or.inr ⟨r', .removed x, by simp, ?_, hshr, rfl, ?_⟩
    · simp only [next, attempt_up _ hup, hrun, settle]
    · intro y hy hmem'
      obtain rfl : x = y := by simpa using hy
      exact ((hmem x).mp hmem').1 rfl
  | removed x =>
    refine Or.inr ⟨r, if (members (key tenantId userId) r).length = 0 then .deleting x
      else .gone x false, by simp, ?_, Shrinks.refl r, ?_, by simp⟩
    · simp only [next, attempt_up _ hup, countMembers_spec ht.set, settle]
    · split <;> rfl
  | deleting x =>
    have hshr := shrinks_deleteUser tenantId userId r
    refine Or.inr ⟨_, .gone x true, by simp, ?_, hshr, rfl, by simp⟩
    simp only [next, attempt_up _ hup, settle]
    rfl
  | gone x last => exact Or.inr ⟨r, _, by simp, rfl, Shrinks.refl r, rfl, by simp⟩
  | failed x e => exact Or.inr ⟨r, _, by simp, rfl, Shrinks.refl r, rfl, by simp⟩

/-- The connections beside one that moves. -/
theorem mem_around_of_ne {l l' l'' : Life} {before after : List Life}
    (h : l' ∈ before ++ l :: after) (hne : l' ≠ l) : l' ∈ before ++ l'' :: after := by
  simp only [List.mem_append, List.mem_cons] at h ⊢
  tauto

/-- The step of one connection. -/
theorem Leased.move (httl : 0 < env.settings.presenceTtlSeconds)
    (h : Leased env tenantId userId w) (i : Nat) (hok : NotExtended w (.move i)) :
    Leased env tenantId userId (w.step (Life.next env) i) := by
  obtain ⟨r, ls⟩ := w
  rcases Tasks.step_cases (Life.next env) ⟨r, ls⟩ i with ⟨_, heq⟩ | ⟨before, l, after, hls, hget, heq⟩
  · rw [heq]
    exact h
  simp only at hls
  subst hls
  rw [heq]
  obtain ⟨ht, hu⟩ := h.user l (by simp)
  obtain ⟨t, u, st, _ | died⟩ := l
  · obtain rfl : t = tenantId := ht
    obtain rfl : u = userId := hu
    simp only [Life.next, Option.isNone_none, if_true]
    rcases LifeStage.next_effect httl st h.up h.typed with
      ⟨x, r', rfl, hnext, hext⟩ | ⟨r', st', haway, hnext, hshr, hconn, hgone⟩
    · rw [hnext]
      have hdead : ∀ other ∈ before ++ ⟨t, u, .away x, none⟩ :: after, other.died.isSome →
          other.conn ∉ members (key t u) r := by
        refine hok ⟨t, u, .away x, none⟩ ?_
        simp [Beats.extended, hget, Life.conn, LifeStage.conn]
      refine h.extends hext (by simp [Life.ident, Life.conn, LifeStage.conn]) (fun y hy => ?_)
        (fun other hother hd heq' => ?_) hdead
      · rcases hext.members y hy with hy | hy
        · obtain rfl : x = y := Option.some.inj hy
          exact ⟨⟨t, u, .online x, none⟩, by simp, rfl⟩
        · obtain ⟨l', hl', hst'⟩ := h.online y hy
          exact ⟨l', mem_around_of_ne hl' (by rintro rfl; cases hst'), hst'⟩
      · -- a dead connection has another id than the one that comes online
        have hsame : other = ⟨t, u, .away x, none⟩ :=
          List.inj_on_of_nodup_map h.ids hother (by simp) (Option.some.inj heq').symm
        rw [hsame] at hd
        cases hd
    · rw [hnext]
      refine h.shrinks hshr (by simp [Life.ident, Life.conn, hconn]) (fun y hy => ?_)
      obtain ⟨l', hl', hst'⟩ := h.online y (hshr.members y hy)
      refine ⟨l', mem_around_of_ne hl' ?_, hst'⟩
      rintro rfl
      exact absurd hy (hgone y hst')
  · exact h

/-- A frame that is served. -/
theorem Leased.serve (h : Leased env tenantId userId w) {p : Life → Prog Redis Exn Unit} {i : Nat}
    (hp : ∀ l, Beats.serving w i = some l → l.tenantId = tenantId → l.userId = userId →
      Leased env tenantId userId { w with state := ((p l).run w.state).2 }) :
    Leased env tenantId userId (Beats.serve p w i) := by
  unfold Beats.serve
  cases hs : Beats.serving w i with
  | none => exact h
  | some l =>
    have hmem : l ∈ w.stages := by
      unfold Beats.serving at hs
      exact List.mem_of_getElem? (Option.eq_some_of_filter_eq_some hs)
    obtain ⟨ht, hu⟩ := h.user l hmem
    exact hp l hs ht hu

/-- A connection dies. -/
theorem Leased.die (h : Leased env tenantId userId w) (i : Nat) :
    Leased env tenantId userId
      { w with stages := w.stages.modify i (Life.die w.state.now) } := by
  have hcases : ∀ l' ∈ w.stages.modify i (Life.die w.state.now), ∃ l ∈ w.stages,
      l'.tenantId = l.tenantId ∧ l'.userId = l.userId ∧ l'.stage = l.stage ∧
      (l'.died = l.died ∨ l'.died = some w.state.now) := by
    intro l' hl'
    obtain ⟨j, hj⟩ := List.mem_iff_getElem?.mp hl'
    rw [List.getElem?_modify] at hj
    obtain ⟨l, hl, rfl⟩ := Option.map_eq_some_iff.mp hj
    refine ⟨l, List.mem_of_getElem? hl, ?_⟩
    split
    · unfold Life.die
      split
      · exact ⟨rfl, rfl, rfl, Or.inr rfl⟩
      · exact ⟨rfl, rfl, rfl, Or.inl rfl⟩
    · exact ⟨rfl, rfl, rfl, Or.inl rfl⟩
  refine ⟨h.up, fun l' hl' => ?_, ?_, h.typed, fun x hx => ?_, h.lease, fun l' hl' t ht hmem => ?_⟩
  · obtain ⟨l, hl, ht, hu, -⟩ := hcases l' hl'
    rw [ht, hu]
    exact h.user l hl
  · have hconn : (w.stages.modify i (Life.die w.state.now)).map Life.conn = w.stages.map Life.conn := by
      refine List.ext_getElem? (fun j => ?_)
      rw [List.getElem?_map, List.getElem?_map, List.getElem?_modify]
      cases w.stages[j]? with
      | none => rfl
      | some l =>
        simp only [Option.map_eq_map, Option.map_some]
        split
        · unfold Life.die
          split <;> rfl
        · rfl
    rw [hconn]
    exact h.ids
  · obtain ⟨l, hl, hst⟩ := h.online x hx
    obtain ⟨j, hj⟩ := List.mem_iff_getElem?.mp hl
    refine ⟨if i = j then Life.die w.state.now l else l, List.mem_iff_getElem?.mpr ⟨j, ?_⟩, ?_⟩
    · rw [List.getElem?_modify, hj]
      rfl
    · split
      · unfold Life.die
        split <;> exact hst
      · exact hst
  · obtain ⟨l, hl, -, -, hst, hd⟩ := hcases l' hl'
    rcases hd with hd | hd
    · refine h.dead l hl t (hd ▸ ht) ?_
      rw [Life.conn, ← hst]
      exact hmem
    · obtain rfl : w.state.now = t := by
        rw [hd] at ht
        exact Option.some.inj ht
      exact h.lease

/-- Time passes. -/
theorem Leased.tick (h : Leased env tenantId userId w) (d : Nat) :
    Leased env tenantId userId
      { w with state := { w.state with now := w.state.now + d } } := by
  have hle : w.state.now ≤ w.state.now + d := Nat.le_add_right _ _
  have hmem : ∀ x, x ∈ members (key tenantId userId) { w.state with now := w.state.now + d } →
      x ∈ members (key tenantId userId) w.state := by
    intro x hx
    unfold members at hx ⊢
    split at hx
    · rename_i s hs
      rw [live_anti hle hs]
      exact hx
    · nomatch hx
  refine ⟨h.up, h.user, h.ids, ⟨fun s hs => ?_, fun s hs => ?_⟩, fun x hx => h.online x (hmem x hx),
    ?_, fun l hl t ht hx => h.dead l hl t ht (hmem _ hx)⟩
  · exact h.typed.set s (live_anti hle hs)
  · exact h.typed.state s (live_anti hle hs)
  · exact Lapses.mono h.lease (by simp only; omega)

/-- **One step.** -/
theorem leased_step (httl : 0 < env.settings.presenceTtlSeconds) (w : Tasks Redis Life)
    (a : BeatAct) (h : Leased env tenantId userId w) (hok : NotExtended w a) :
    Leased env tenantId userId (Beats.step env w a) := by
  cases a with
  | move i => exact h.move httl i hok
  | pong i =>
    refine h.serve (fun l hs ht hu => ?_)
    rw [ht, hu]
    have hext := extends_refresh httl tenantId userId h.up
    refine h.extends hext rfl (fun x hx => ?_) (fun _ _ _ => nofun) ?_
    · rcases hext.members x hx with hx | hx
      · nomatch hx
      · exact h.online x hx
    · have := hok l hs
      rwa [ht, hu] at this
  | report i idle =>
    refine h.serve (fun l _ ht hu => ?_)
    rw [ht, hu]
    have hshr := shrinks_setState env tenantId userId idle h.up
    exact h.shrinks hshr rfl (fun x hx => h.online x (hshr.members x hx))
  | die i => exact h.die i
  | tick d => exact h.tick d

/-- At the start nothing is stored. -/
theorem leased_start {r : Redis} (hup : r.faults = [])
    (hset : r.presence (key tenantId userId) = none)
    (hstate : r.presence (stateKey tenantId userId) = none) {ids : List ConnId} (hnd : ids.Nodup) :
    Leased env tenantId userId (Beats.start tenantId userId r ids) where
  up := hup
  user := by simp [Beats.start]
  ids := by simpa [Beats.start, Function.comp_def, Life.conn, LifeStage.conn] using hnd
  typed := ⟨fun s => by simp [Beats.start, hset, Timed.live],
    fun s => by simp [Beats.start, hstate, Timed.live]⟩
  online := by simp [Beats.start, members, hset, Timed.live]
  lease := fun m _ => by simp [Beats.start, hset, Timed.live]
  dead := by simp [Beats.start]

end Dead

/-! ## 5. Staleness -/

/-- `get_presence` while the keys hold what they should. -/
theorem getPresence_count {tenantId userId : String} {r : Redis} (hup : r.faults = [])
    (ht : Typed tenantId userId r) : ∃ rep, (getPresence tenantId userId).run r = (.ok rep, r) ∧
      rep.userId = userId ∧ rep.connections = (members (key tenantId userId) r).length := by
  have hget : ∃ reported, (getKey (stateKey tenantId userId) r).1 = .ok reported := by
    unfold getKey
    split
    · exact ⟨_, rfl⟩
    · rename_i s hs
      exact absurd hs (ht.state s)
    · exact ⟨_, rfl⟩
  obtain ⟨reported, hget⟩ := hget
  rw [getPresence_run _ _ hup, countMembers_spec ht.set]
  simp only [Except.bind, hget]
  split
  · rename_i hzero
    exact ⟨_, rfl, rfl, hzero.symm⟩
  · exact ⟨_, rfl, rfl, rfl⟩

/-- A connection that died longer ago than the TTL has left the set. -/
theorem Leased.forgotten {env : Env} {tenantId userId : String} {w : Tasks Redis Life}
    (h : Leased env tenantId userId w) {l : Life} (hl : l ∈ w.stages)
    (hlong : l.longDead env w.state.now) : l.conn ∉ members (key tenantId userId) w.state := by
  intro hmem
  cases hd : l.died with
  | none => simp [Life.longDead, hd] at hlong
  | some t =>
    rw [Life.longDead, hd, Option.any_some, decide_eq_true_eq] at hlong
    rw [members, h.dead l hl t hd hmem w.state.now hlong] at hmem
    exact absurd hmem List.not_mem_nil

theorem nodup_members (k : String) (r : Redis) : (members k r).Nodup := by
  unfold members
  split
  · rename_i s _
    exact s.nodup
  · exact List.nodup_nil

/-- The set has no more members than there are connections online that have not died that long
ago. -/
theorem Leased.length_members_le {env : Env} {tenantId userId : String} {w : Tasks Redis Life}
    (h : Leased env tenantId userId w) :
    (members (key tenantId userId) w.state).length ≤ w.stages.countP (fun l =>
      decide (l.stage = .online l.conn) && !l.longDead env w.state.now) := by
  rw [List.countP_eq_length_filter, ← List.length_map Life.conn]
  refine (List.subperm_of_subset (nodup_members _ _) (fun x hx => ?_)).length_le
  obtain ⟨l, hl, hst⟩ := h.online x hx
  have hconn : l.conn = x := by rw [Life.conn, hst]; rfl
  refine List.mem_map.mpr ⟨l, List.mem_filter.mpr ⟨hl, ?_⟩, hconn⟩
  have hnot : ¬ l.longDead env w.state.now = true := fun hlong =>
    h.forgotten hl hlong (hconn ▸ hx)
  simp [hst, hconn, hnot]

/-- **When a dead connection is forgotten.**  The connections of a user come online, heartbeat,
report a state, go offline and die, on a clock.  If none comes online and none heartbeats while a
dead connection is still in the set, then a connection that died longer than
`presence_ttl_seconds` ago is not in it, and `get_presence` counts no more connections than are
online and have not died that long ago. -/
theorem staleness_bounded (env : Env) (httl : 0 < env.settings.presenceTtlSeconds)
    (tenantId userId : String) (r : Redis) (hup : r.faults = [])
    (hset : r.presence (key tenantId userId) = none)
    (hstate : r.presence (stateKey tenantId userId) = none) (ids : List ConnId) (hnd : ids.Nodup)
    (acts : List BeatAct)
    (hacts : Along (Beats.step env) NotExtended (Beats.start tenantId userId r ids) acts) :
    let w := runAll (Beats.step env) (Beats.start tenantId userId r ids) acts
    (∀ l ∈ w.stages, l.longDead env w.state.now → l.conn ∉ members (key tenantId userId) w.state) ∧
      ∃ rep, ((getPresence tenantId userId).run w.state).1 = .ok rep ∧
        rep.connections ≤ w.stages.countP (fun l =>
          decide (l.stage = .online l.conn) && !l.longDead env w.state.now) := by
  intro w
  have h : Leased env tenantId userId w := runAll_invariant (leased_step httl) acts _
    (leased_start hup hset hstate hnd) hacts
  obtain ⟨rep, hrun, -, hcount⟩ := getPresence_count h.up h.typed
  exact ⟨fun l hl => h.forgotten hl, rep, by rw [hrun], hcount.trans_le h.length_members_le⟩

/-- Two tabs; one dies, the other heartbeats 20 seconds later.  After 40 seconds the dead one is
still counted. -/
theorem dead_member_kept :
    let w := runAll (Beats.step (.plain {})) (Beats.start "t" "u" {} ["x", "y"])
      [.move 0, .move 1, .die 0, .tick 20000000, .pong 1, .tick 20000000]
    w.state.now = 40000000 ∧ (Env.plain {}).settings.presenceTtlSeconds = 30 ∧
      w.stages.map (fun l => (l.stage, l.died)) = [(.online "x", some 0), (.online "y", none)] ∧
      ((getPresence "t" "u").run w.state).1 = .ok ⟨"u", .online, 2⟩ := by
  decide +kernel

/-- Two tabs that heartbeat; one dies, and the other is silent until the set has lapsed.  Its next
heartbeat and a third tab do not bring the dead one back. -/
theorem dead_member_lapses :
    let acts := [.move 0, .move 1, .tick 10000000, .pong 0, .pong 1, .die 0, .tick 31000000,
      .pong 1, .move 2]
    let w := runAll (Beats.step (.plain {})) (Beats.start "t" "u" {} ["x", "y", "z"]) acts
    "x" ∉ members (key "t" "u") w.state ∧ "z" ∈ members (key "t" "u") w.state ∧
      ∃ rep, ((getPresence "t" "u").run w.state).1 = .ok rep ∧ rep.connections ≤ 2 := by
  intro acts w
  obtain ⟨hforgotten, rep, hrun, hle⟩ := staleness_bounded (.plain {}) (by decide) "t" "u" {} rfl rfl
    rfl ["x", "y", "z"] (by decide) acts (by decide +kernel)
  have htwo : w.stages.countP (fun l => decide (l.stage = .online l.conn) &&
      !l.longDead (.plain {}) w.state.now) = 2 := by decide +kernel
  have hdead : ∃ l ∈ w.stages, l.conn = "x" ∧ l.longDead (.plain {}) w.state.now = true := by
    decide +kernel
  obtain ⟨l, hl, hx, hlong⟩ := hdead
  exact ⟨hx ▸ hforgotten l hl hlong, by decide +kernel, rep, hrun, hle.trans (le_of_eq htwo)⟩

/-! ## 6. Heartbeats -/

section Present

variable {env : Env} {tenantId userId : String} {r : Redis}

/-- `get_presence` finds the user present exactly if the set has a member and the state key holds
no set. -/
theorem getPresence_present (hup : r.faults = []) :
    (∃ rep, ((getPresence tenantId userId).run r).1 = .ok rep ∧ rep.state ≠ .offline) ↔
      members (key tenantId userId) r ≠ [] ∧ HoldsString (stateKey tenantId userId) r := by
  rw [getPresence_run _ _ hup]
  unfold countMembers members HoldsString
  cases Timed.live r.now (r.presence (key tenantId userId)) with
  | none => simp [Except.bind]
  | some v =>
    cases v with
    | str s => simp [Except.bind]
    | set s =>
      simp only [Except.bind]
      split
      · rename_i hzero
        simp [List.eq_nil_of_length_eq_zero hzero]
      · rename_i hpos
        have hne : s.elems ≠ [] := fun h => hpos (by rw [h]; rfl)
        unfold getKey
        cases Timed.live r.now (r.presence (stateKey tenantId userId)) with
        | none => simp [hne]
        | some v =>
          cases v with
          | str s' =>
            by_cases hidle : s' = "IDLE" <;> simp [hne, hidle]
          | set s' => simp

/-- **`refresh` changes nothing that can be read.** -/
theorem live_refresh (httl : 0 < env.settings.presenceTtlSeconds) (hup : r.faults = [])
    (k : String) :
    Timed.live ((refresh env tenantId userId).run r).2.now
        (((refresh env tenantId userId).run r).2.presence k) =
      Timed.live r.now (r.presence k) := by
  have hexp : ∀ (k' : String) (r : Redis),
      Timed.live r.now ((expireKey k' env.settings.presenceTtlSeconds r).presence k) =
        Timed.live r.now (r.presence k) := by
    intro k' r
    simp only [expireKey, setPresence, Function.update_apply]
    split
    · rename_i hk
      rw [hk, live_expire httl]
    · rfl
  simp only [refresh, command, Prog.run_atomic, attempt_up _ hup]
  exact (hexp _ (expireKey _ _ r)).trans (hexp _ r)

theorem members_eq_of_live {k : String} {r' : Redis}
    (h : Timed.live r'.now (r'.presence k) = Timed.live r.now (r.presence k)) :
    members k r' = members k r := by
  rw [members, members, h]

theorem holdsString_iff_of_live {k : String} {r' : Redis}
    (h : Timed.live r'.now (r'.presence k) = Timed.live r.now (r.presence k)) :
    HoldsString k r' ↔ HoldsString k r := by
  rw [HoldsString, HoldsString, h]

end Present

/-- The commands of a connection do not make Redis fail. -/
theorem LifeStage.next_up (env : Env) (tenantId userId : String) (st : LifeStage) {r : Redis}
    (hup : r.faults = []) : (next env tenantId userId st r).1.faults = [] := by
  cases st with
  | away x =>
    simp only [next, attempt_up _ hup, settle, setOnline, expireKey, setPresence]
    unfold addMember
    split <;> exact hup
  | online x =>
    simp only [next, attempt_up _ hup, settle]
    unfold removeMember
    split <;> exact hup
  | removed x =>
    simp only [next, attempt_up _ hup, settle]
    unfold countMembers
    split <;> exact hup
  | deleting x =>
    simp only [next, attempt_up _ hup, settle]
    exact hup
  | gone x last => exact hup
  | failed x e => exact hup

theorem Beats.serve_up {p : Life → Prog Redis Exn Unit} {w : Tasks Redis Life} {i : Nat}
    (hup : w.state.faults = []) (hp : ∀ l, ((p l).run w.state).2.faults = []) :
    (Beats.serve p w i).state.faults = [] := by
  unfold Beats.serve
  split
  · exact hp _
  · exact hup

theorem Beats.step_up (env : Env) (w : Tasks Redis Life) (a : BeatAct)
    (hup : w.state.faults = []) : (Beats.step env w a).state.faults = [] := by
  cases a with
  | move i =>
    rcases Tasks.step_cases (Life.next env) w i with ⟨_, heq⟩ | ⟨_, l, _, _, _, heq⟩
    · rw [Beats.step, heq]
      exact hup
    · rw [Beats.step, heq]
      simp only [Life.next]
      split
      · exact LifeStage.next_up env _ _ _ hup
      · exact hup
  | pong i =>
    refine Beats.serve_up hup (fun l => ?_)
    simp only [refresh, command, Prog.run_atomic, attempt_up _ hup]
    exact hup
  | report i idle =>
    refine Beats.serve_up hup (fun l => ?_)
    unfold setState
    split <;>
    · simp only [command, Prog.run_atomic, attempt_up _ hup]
      exact hup
  | die i => exact hup
  | tick d => exact hup

/-- After a heartbeat the user is present. -/
def BeatPresent (env : Env) (w : Tasks Redis Life) : BeatAct → Prop
  | .pong i => ∀ l ∈ Beats.serving w i,
      ∃ rep, ((getPresence l.tenantId l.userId).run (Beats.step env w (.pong i)).state).1 = .ok rep ∧
        rep.state ≠ .offline
  | _ => True

/-- A heartbeat comes while the user's set is there, with a member, and no set stands where its
state is stored. -/
def BeatOnSet (w : Tasks Redis Life) : BeatAct → Prop
  | .pong i => ∀ l ∈ Beats.serving w i, members (key l.tenantId l.userId) w.state ≠ [] ∧
      HoldsString (stateKey l.tenantId l.userId) w.state
  | _ => True

instance (w : Tasks Redis Life) (a : BeatAct) : Decidable (BeatOnSet w a) := by
  cases a <;> unfold BeatOnSet <;> infer_instance

theorem beatPresent_iff {env : Env} (httl : 0 < env.settings.presenceTtlSeconds)
    {w : Tasks Redis Life} (hup : w.state.faults = []) (a : BeatAct) :
    BeatPresent env w a ↔ BeatOnSet w a := by
  cases a with
  | pong i =>
    refine forall₂_congr (fun l hl => ?_)
    have hstate : (Beats.step env w (.pong i)).state =
        ((refresh env l.tenantId l.userId).run w.state).2 := by
      simp only [Beats.step, Beats.serve]
      rw [Option.mem_def.mp hl]
    rw [getPresence_present (Beats.step_up env w (.pong i) hup), hstate,
      members_eq_of_live (live_refresh httl hup _),
      holdsString_iff_of_live (live_refresh httl hup _)]
  | move i => exact Iff.rfl
  | report i idle => exact Iff.rfl
  | die i => exact Iff.rfl
  | tick d => exact Iff.rfl

/-- **When a heartbeat leaves the user present.**  Connections of any users come online, heartbeat,
report a state, go offline and die, on a clock, from any state of the store.  Every heartbeat of a
run leaves its user present exactly if at every heartbeat the set was still there: it had neither
lapsed nor been deleted by a sibling, and the user is not in the way of one whose id is this one's
followed by `:state`. -/
theorem heartbeat_present (env : Env) (httl : 0 < env.settings.presenceTtlSeconds) :
    ∀ (acts : List BeatAct) (w : Tasks Redis Life), w.state.faults = [] →
      (Along (Beats.step env) (BeatPresent env) w acts ↔ Along (Beats.step env) BeatOnSet w acts) :=
  along_congr (fun _ a hup => beatPresent_iff httl hup a)
    (fun w a hup _ => Beats.step_up env w a hup)

/-- With a PING every 30 seconds and 10 seconds for the answer.  A client of the user `u` connects,
and its first PONG comes after 31 seconds: it is handled, the connection is registered and ACTIVE,
and the user is OFFLINE. -/
theorem late_heartbeat :
    let env : Env := .plain { heartbeatIntervalSeconds := 30 }
    let connected := (handshake env ⟨"x", "s", some (.obj [("type", .str "CONNECT"),
      ("user_id", .str "u")]), .ok "t"⟩).run ⟨{}, {}⟩
    let late : Gateway := { connected.2 with
      redis := { connected.2.redis with now := connected.2.redis.now + 31000000 } }
    let handled := (onFrame env ⟨"x", "s", "t", some "u"⟩ (.obj [("type", .str "PONG")])).run late
    connected.1.toOption = some (some ⟨"x", "s", "t", some "u"⟩) ∧
      ((getPresence "t" "u").run connected.2.redis).1 = .ok ⟨"u", .online, 1⟩ ∧
      handled.1.toOption = some true ∧ isActive "x" handled.2 = true ∧
      ((getPresence "t" "u").run handled.2.redis).1 = .ok ⟨"u", .offline, 0⟩ := by
  decide +kernel

/-- A heartbeat in time. -/
theorem heartbeat_in_time :
    Along (Beats.step (.plain {})) (BeatPresent (.plain {})) (Beats.start "t" "u" {} ["x"])
      [.move 0, .tick 20000000, .pong 0, .tick 20000000, .pong 0] :=
  (heartbeat_present (.plain {}) (by decide) _ _ rfl).mpr (by decide +kernel)

end Relay
