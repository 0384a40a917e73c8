/-
# Users of a tenant and their presence keys

A user id is any string the client sends.  `presence/tracker.py` appends it to
`relay:presence:{tenant}:` for the user's set and appends `:state` to that for the user's state, so
the set of the user `v:state` and the state of the user `v` are one key.  `list_online` takes a key
that ends with `:state` for a state, which leaves out the users `v:state` and also the user `state`.

`users_apart_iff` says that these ids are the only bad ones: the operations of the users of a
tenant never fail, never change what `get_presence` says of another user, and `list_online` lists
exactly the users present, whatever is called in whatever order, if and only if no user is named
`state` or has a name ending in `:state`.
-/
import Mathlib
import Relay.Heartbeats

namespace Relay

open Redis Presence

/-! ## 1. Keys -/

theorem key_eq (tenantId userId : String) : key tenantId userId = keyPrefix tenantId ++ userId := rfl

theorem stateKey_eq (tenantId userId : String) :
    stateKey tenantId userId = key tenantId (userId ++ ":state") := by
  simp only [stateKey, key_eq, String.append_assoc]

/-- The characters of a key, by its parts. -/
theorem toList_parts (a b d : String) :
    (a ++ b ++ ":" ++ d).toList = a.toList ++ (b.toList ++ ':' :: d.toList) := by
  simp [String.toList_append]

/-- UUIDs have one length, so a presence key determines its tenant and its user. -/
theorem key_inj {t t' u u' : String} (ht : IsUuid t) (ht' : IsUuid t')
    (h : key t u = key t' u') : t = t' ∧ u = u' := by
  have hl := (toList_parts _ t u).symm.trans
    ((congrArg String.toList h).trans (toList_parts _ t' u'))
  obtain ⟨h2, h3⟩ := List.append_inj (List.append_cancel_left hl) (by rw [ht.length, ht'.length])
  exact ⟨String.toList_inj.mp h2, String.toList_inj.mp (List.cons.inj h3).2⟩

theorem keyPrefix_prefix_key {t t' u' : String} (ht : IsUuid t) (ht' : IsUuid t')
    (h : (keyPrefix t).toList <+: (key t' u').toList) : t = t' := by
  obtain ⟨rest, hrest⟩ := h
  have : key t (String.ofList rest) = key t' u' := by
    apply String.toList_inj.mp
    rw [key_eq, String.toList_append, String.toList_ofList, hrest]
  exact (key_inj ht ht' this).1

theorem userOf_key (tenantId userId : String) : userOf tenantId (key tenantId userId) = userId := by
  rw [userOf, key_eq, String.toList_append, List.drop_left]
  exact String.ofList_toList

theorem endsWithState_iff (k : String) : endsWithState k = true ↔ ":state".toList <:+ k.toList :=
  List.isSuffixOf_iff_suffix

/-- A user id that the keys can carry. -/
def SafeId (userId : String) : Prop := userId ≠ "state" ∧ ¬ endsWithState userId = true

instance (userId : String) : Decidable (SafeId userId) := inferInstanceAs (Decidable (_ ∧ _))

theorem endsWithState_append (u : String) : endsWithState (u ++ ":state") = true := by
  rw [endsWithState_iff, String.toList_append]
  exact List.suffix_append _ _

/-- A set key that looks like a state key belongs to a bad id. -/
theorem endsWithState_key (tenantId userId : String) :
    endsWithState (key tenantId userId) = true ↔ ¬ SafeId userId := by
  have hsplit : (key tenantId userId).toList =
      ("relay:presence:".toList ++ tenantId.toList) ++ (':' :: userId.toList) :=
    (toList_parts _ tenantId userId).trans (List.append_assoc _ _ _).symm
  rw [endsWithState_iff, hsplit, SafeId, not_and_not_right, endsWithState_iff]
  have hstate : (":state" : String).toList = ':' :: "state".toList := by decide
  constructor
  · intro h hne
    rcases List.suffix_or_suffix_of_suffix h (List.suffix_append _ _) with h | h
    · rcases List.suffix_cons_iff.mp h with h | h
      · rw [hstate] at h
        exact absurd (String.toList_inj.mp (List.cons.inj h).2.symm) hne
      · exact h
    · rw [hstate] at h
      rcases List.suffix_cons_iff.mp h with h | h
      · exact absurd (String.toList_inj.mp (List.cons.inj h).2) hne
      · have hmem : ':' ∈ "state".toList := h.subset List.mem_cons_self
        exact absurd hmem (by decide)
  · intro h
    by_cases hu : userId = "state"
    · subst hu
      rw [hstate]
      exact List.suffix_append _ _
    · exact (h hu).trans ((List.suffix_cons _ _).trans (List.suffix_append _ _))

/-! ## 2. Operations -/

/-- An operation on a user's presence. -/
inductive PresenceOp
  | online (x : ConnId)
  | offline (x : ConnId)
  | refresh
  | setState (idle : Bool)
  deriving DecidableEq, Repr

/-- The call that carries it out. -/
def PresenceOp.perform (env : Env) (tenantId userId : String) : PresenceOp → Prog Redis Exn Unit
  | .online x => connectionOnline env tenantId userId x
  | .offline x => do
    let _ ← connectionOffline tenantId userId x
    return ()
  | .refresh => Presence.refresh env tenantId userId
  | .setState idle => Presence.setState env tenantId userId idle

/-- A call for a user of a tenant, or the passing of time. -/
inductive PresenceAct
  | call (tenantId userId : String) (op : PresenceOp)
  | tick (micros : Nat)
  deriving DecidableEq, Repr

/-- The store after it. -/
def PresenceAct.step (env : Env) (r : Redis) : PresenceAct → Redis
  | .call tenantId userId op => ((op.perform env tenantId userId).run r).2
  | .tick d => { r with now := r.now + d }

/-- Tenant ids are UUIDs, and the users of the tenant are among `users`. -/
def PresenceAct.By (tenantId : String) (users : Set String) : PresenceAct → Prop
  | .call t u _ => IsUuid t ∧ (t = tenantId → u ∈ users)
  | .tick _ => True

/-- What `SCAN MATCH relay:presence:{tenant}:*` returns when nothing changes meanwhile: every such
key, in some order, some of them perhaps more than once. -/
def Scans (tenantId : String) (keys : List String) (r : Redis) : Prop :=
  ∀ k, k ∈ keys ↔ (keyPrefix tenantId).toList <+: k.toList ∧
    (Timed.live r.now (r.presence k)).isSome

/-- No operation of a user fails or changes what `get_presence` says of another one. -/
def Unaffected (env : Env) (tenantId : String) (users : Set String) (r : Redis) : Prop :=
  ∀ u ∈ users, ∀ v ∈ users, u ≠ v → ∀ op : PresenceOp,
    ((op.perform env tenantId u).run r).1 = .ok () ∧
    ((getPresence tenantId v).run ((op.perform env tenantId u).run r).2).1 =
      ((getPresence tenantId v).run r).1

/-- `list_online` lists exactly the users present. -/
def ListsPresent (tenantId : String) (users : Set String) (r : Redis) : Prop :=
  ∀ v ∈ users, ∀ keys, Scans tenantId keys r → ∃ out, ((listOnline tenantId keys).run r).1 = .ok out ∧
    ((∃ rep ∈ out, rep.userId = v) ↔
      ∃ rep, ((getPresence tenantId v).run r).1 = .ok rep ∧ 1 ≤ rep.connections)

/-! ## 3. What stands at a key -/

section Stock

variable {env : Env} {tenantId : String} {users : Set String} {r : Redis}

/-- What a key may hold: a set with a member at a set key of a user, a string at a state key. -/
def Fitting (tenantId : String) (users : Set String) (k : String) : PresenceValue → Prop
  | .set s => s.elems ≠ [] ∧ ∃ t u, IsUuid t ∧ (t = tenantId → u ∈ users) ∧ k = key t u
  | .str _ => ∃ t u, IsUuid t ∧ k = stateKey t u

/-- Redis is up and every key holds what fits it. -/
structure Stocked (tenantId : String) (users : Set String) (r : Redis) : Prop where
  up : r.faults = []
  fitting : ∀ k v, Timed.live r.now (r.presence k) = some v → Fitting tenantId users k v

/-- A key is written. -/
theorem Stocked.write (h : Stocked tenantId users r) {k : String} {t : Option (Timed PresenceValue)}
    (ht : ∀ v, Timed.live r.now t = some v → Fitting tenantId users k v) :
    Stocked tenantId users (r.setPresence k t) := by
  refine ⟨h.up, fun k' v hv => ?_⟩
  by_cases hk : k' = k
  · subst hk
    exact ht v (by simpa [setPresence] using hv)
  · exact h.fitting k' v (by simpa [setPresence, hk] using hv)

theorem Stocked.delete (h : Stocked tenantId users r) (k : String) :
    Stocked tenantId users (deleteKey k r) :=
  h.write (fun _ hv => nomatch hv)

/-- A value that has been given a new deadline is the old one. -/
theorem live_of_expire {α : Type} {now ttl : Nat} {t : Option (Timed α)} {v : α}
    (h : Timed.live now (Timed.expire now ttl t) = some v) : Timed.live now t = some v := by
  obtain ⟨w, hw, hval⟩ := Timed.live_val h
  obtain ⟨u, hu, hlasting⟩ := Option.bind_eq_some_iff.mp hw
  rw [hu, ← hval, Timed.val_lasting hlasting]

theorem Stocked.expire (h : Stocked tenantId users r) (k : String) (ttl : Nat) :
    Stocked tenantId users (expireKey k ttl r) :=
  h.write (fun v hv => h.fitting k v (live_of_expire hv))

theorem OSet.elems_add_ne_nil {α : Type} [DecidableEq α] (s : OSet α) (a : α) :
    (s.add a).elems ≠ [] := by
  have hmem : a ∈ (s.add a).elems := OSet.mem_add.mpr (Or.inl rfl)
  exact List.ne_nil_of_mem hmem

/-- Only the two keys of the user are written, at one moment. -/
def OwnKeys (t u : String) (r r' : Redis) : Prop :=
  r'.now = r.now ∧ ∀ k, k ≠ key t u → k ≠ stateKey t u → r'.presence k = r.presence k

theorem OwnKeys.refl (t u : String) (r : Redis) : OwnKeys t u r r := ⟨rfl, fun _ _ _ => rfl⟩

theorem OwnKeys.trans {t u : String} {a b c : Redis} (h : OwnKeys t u a b) (h' : OwnKeys t u b c) :
    OwnKeys t u a c :=
  ⟨h'.1.trans h.1, fun k hk hs => (h'.2 k hk hs).trans (h.2 k hk hs)⟩

theorem ownKeys_set (t u : String) (r : Redis) (v : Option (Timed PresenceValue)) :
    OwnKeys t u r (r.setPresence (key t u) v) :=
  ⟨rfl, fun _ hk _ => Function.update_of_ne hk _ _⟩

theorem ownKeys_state (t u : String) (r : Redis) (v : Option (Timed PresenceValue)) :
    OwnKeys t u r (r.setPresence (stateKey t u) v) :=
  ⟨rfl, fun _ _ hs => Function.update_of_ne hs _ _⟩

theorem stocked_command {α : Type} {t u : String} {f : Redis → Except Exn α × Redis}
    (h : ∀ r, Stocked tenantId users r → Stocked tenantId users (f r).2 ∧ OwnKeys t u r (f r).2) :
    (command f).Keeps (Stocked tenantId users) (OwnKeys t u) := by
  refine Prog.keeps_atomic (fun r hr => ?_)
  rw [attempt_up _ hr.up]
  exact h r hr

section Commands

variable {t u : String} (ht : IsUuid t) (hu : t = tenantId → u ∈ users)

include ht hu

theorem stocked_addMember (h : Stocked tenantId users r) (x : ConnId) :
    Stocked tenantId users (addMember (key t u) x r).2 ∧
      OwnKeys t u r (addMember (key t u) x r).2 := by
  have hset : ∀ s : OSet ConnId, Fitting tenantId users (key t u) (.set (s.add x)) :=
    fun s => ⟨OSet.elems_add_ne_nil s x, t, u, ht, hu, rfl⟩
  unfold addMember
  split
  · exact ⟨h, OwnKeys.refl t u r⟩
  · rename_i s hl
    refine ⟨h.write (fun v hv => ?_), ownKeys_set t u r _⟩
    rw [Timed.live_deadlineOf hl] at hv
    obtain rfl := Option.some.inj hv
    exact hset s
  · refine ⟨h.write (fun v hv => ?_), ownKeys_set t u r _⟩
    obtain rfl := Option.some.inj hv
    exact hset _

theorem stocked_removeMember (h : Stocked tenantId users r) (x : ConnId) :
    Stocked tenantId users (removeMember (key t u) x r).2 ∧
      OwnKeys t u r (removeMember (key t u) x r).2 := by
  unfold removeMember
  split
  · exact ⟨h, OwnKeys.refl t u r⟩
  · rename_i s hl
    refine ⟨h.write (fun v hv => ?_), ownKeys_set t u r _⟩
    split at hv
    · nomatch hv
    · rename_i hne
      rw [Timed.live_deadlineOf hl] at hv
      obtain rfl := Option.some.inj hv
      exact ⟨fun hnil => hne (by rw [hnil]; rfl), t, u, ht, hu, rfl⟩
  · exact ⟨h, OwnKeys.refl t u r⟩

/-- **What an operation does**, command by command: every key goes on holding what fits it, and
only the user's two keys change. -/
theorem perform_keeps (op : PresenceOp) :
    (op.perform env t u).Keeps (Stocked tenantId users) (OwnKeys t u) := by
  cases op with
  | online x =>
    refine stocked_command (fun r h => ?_)
    obtain ⟨h1, h2⟩ := stocked_addMember ht hu h x
    exact ⟨h1.expire _ _, h2.trans (ownKeys_set t u _ _)⟩
  | offline x =>
    refine Prog.Keeps.bind ?_ (fun _ => trivial)
    refine Prog.Keeps.bind (stocked_command (fun r h => stocked_removeMember ht hu h x)) (fun _ => ?_)
    refine Prog.Keeps.bind (stocked_command (fun r h => ?_)) (fun remaining => ?_)
    · unfold countMembers
      split <;> exact ⟨h, OwnKeys.refl t u r⟩
    · split
      · refine Prog.Keeps.bind (stocked_command (fun r h => ?_)) (fun _ => trivial)
        exact ⟨(h.delete _).delete _, (ownKeys_set t u r _).trans (ownKeys_state t u _ _)⟩
      · trivial
  | refresh =>
    refine stocked_command (fun r h => ?_)
    exact ⟨(h.expire _ _).expire _ _, (ownKeys_set t u r _).trans (ownKeys_state t u _ _)⟩
  | setState idle =>
    simp only [PresenceOp.perform, Presence.setState]
    split
    · refine stocked_command (fun r h => ⟨h.write (fun v hv => ?_), ownKeys_state t u r _⟩)
      obtain ⟨w, hw, rfl⟩ := Timed.live_val hv
      rw [Timed.val_lasting hw]
      exact ⟨t, u, ht, rfl⟩
    · exact stocked_command (fun r h => ⟨h.delete _, ownKeys_state t u r _⟩)

theorem perform_spec (env : Env) (h : Stocked tenantId users r) (op : PresenceOp) :
    Stocked tenantId users ((op.perform env t u).run r).2 ∧
      OwnKeys t u r ((op.perform env t u).run r).2 :=
  Prog.run_keeps (OwnKeys.refl t u) (fun _ _ _ => OwnKeys.trans) (perform_keeps ht hu op) h

end Commands

theorem stocked_step (a : PresenceAct) (ha : a.By tenantId users) (h : Stocked tenantId users r) :
    Stocked tenantId users (a.step env r) := by
  cases a with
  | call t u op => exact (perform_spec ha.1 ha.2 env h op).1
  | tick d =>
    exact ⟨h.up, fun k v hv => h.fitting k v (live_anti (Nat.le_add_right r.now d) hv)⟩

/-! ## 4. Safe ids -/

/-- The keys of a user whose `:state` neighbour is no user hold what they should. -/
theorem Stocked.typed (h : Stocked tenantId users r) (ht : IsUuid tenantId)
    (hsafe : ∀ u ∈ users, SafeId u) {v : String} (hv : v ∈ users) : Typed tenantId v r := by
  refine ⟨fun s hs => ?_, fun s hs => ?_⟩
  · obtain ⟨t', u', ht', hk⟩ := h.fitting _ _ hs
    rw [stateKey_eq] at hk
    obtain ⟨-, hvu⟩ := key_inj ht ht' hk
    exact (hsafe v hv).2 (hvu ▸ endsWithState_append u')
  · obtain ⟨-, t', u', ht', hu', hk⟩ := h.fitting _ _ hs
    rw [stateKey_eq] at hk
    obtain ⟨htt, hvu⟩ := key_inj ht ht' hk
    exact (hsafe u' (hu' htt.symm)).2 (hvu ▸ endsWithState_append v)

/-- `get_presence` reads the user's two keys. -/
theorem getPresence_congr {v : String} {r' : Redis} (hup : r.faults = []) (hup' : r'.faults = [])
    (hnow : r'.now = r.now) (hset : r'.presence (key tenantId v) = r.presence (key tenantId v))
    (hstate : r'.presence (stateKey tenantId v) = r.presence (stateKey tenantId v)) :
    ((getPresence tenantId v).run r').1 = ((getPresence tenantId v).run r).1 := by
  have hcount : (countMembers (key tenantId v) r').1 = (countMembers (key tenantId v) r).1 := by
    unfold countMembers
    rw [hnow, hset]
    split <;> rfl
  have hget : (getKey (stateKey tenantId v) r').1 = (getKey (stateKey tenantId v) r).1 := by
    unfold getKey
    rw [hnow, hstate]
    split <;> rfl
  rw [getPresence_run _ _ hup, getPresence_run _ _ hup', hcount, hget]

/-- An operation on well-typed keys returns. -/
theorem perform_ok (httl : 0 < env.settings.presenceTtlSeconds) {u : String} (hup : r.faults = [])
    (hset : HoldsSet (key tenantId u) r) (op : PresenceOp) :
    ((op.perform env tenantId u).run r).1 = .ok () := by
  cases op with
  | online x =>
    obtain ⟨r', hrun, -⟩ := setOnline_spec (x := x) httl hset
    have : (connectionOnline env tenantId u x).run r =
        LifeStage.setOnline env tenantId u x r := by
      rw [connectionOnline, command, Prog.run_atomic, attempt_up _ hup]
      rfl
    rw [PresenceOp.perform, this, hrun]
  | offline x =>
    obtain ⟨r', hrun, hf, hset', -⟩ := removeMember_spec (x := x) hset
    have h1 : (command (removeMember (key tenantId u) x)).run r = (.ok (), r') := by
      rw [command, Prog.run_atomic, attempt_up _ hup, hrun]
    have h2 : (command (countMembers (key tenantId u))).run r' =
        (.ok (members (key tenantId u) r').length, r') := by
      rw [command, Prog.run_atomic, attempt_up _ (hf.trans hup), countMembers_spec hset']
    simp only [PresenceOp.perform, connectionOffline, Prog.bind_eq, Prog.bind_assoc]
    rw [Prog.run_bind_ok h1, Prog.run_bind_ok h2]
    split
    · simp [command, Prog.run_bind, Prog.run_atomic, attempt_up _ (hf.trans hup)]
    · rfl
  | refresh =>
    simp only [PresenceOp.perform, Presence.refresh, command, Prog.run_atomic, attempt_up _ hup]
  | setState idle =>
    simp only [PresenceOp.perform, Presence.setState]
    split <;> simp only [command, Prog.run_atomic, attempt_up _ hup]

/-- **Users with safe ids do not meet.** -/
theorem Stocked.unaffected (httl : 0 < env.settings.presenceTtlSeconds)
    (h : Stocked tenantId users r) (ht : IsUuid tenantId) (hsafe : ∀ u ∈ users, SafeId u) :
    Unaffected env tenantId users r := by
  intro u hu v hv hne op
  obtain ⟨hstock, hnow, hkeys⟩ := perform_spec ht (fun _ => hu) env h op
  refine ⟨perform_ok httl h.up (h.typed ht hsafe hu).set op,
    getPresence_congr h.up hstock.up hnow (hkeys _ ?_ ?_) (hkeys _ ?_ ?_)⟩
  · exact fun hk => hne (key_inj ht ht hk).2.symm
  · intro hk
    rw [stateKey_eq] at hk
    exact (hsafe v hv).2 ((key_inj ht ht hk).2 ▸ endsWithState_append u)
  · intro hk
    rw [stateKey_eq] at hk
    exact (hsafe u hu).2 ((key_inj ht ht hk).2 ▸ endsWithState_append v)
  · intro hk
    rw [stateKey_eq, stateKey_eq] at hk
    have := congrArg String.toList (key_inj ht ht hk).2
    simp only [String.toList_append] at this
    exact hne (String.toList_inj.mp (List.append_cancel_right this)).symm

/-- What `list_online` returns: a report for each key that does not look like a state key. -/
theorem listOnline_run (hup : r.faults = []) : ∀ keys : List String,
    (∀ k ∈ keys, endsWithState k = false → Typed tenantId (userOf tenantId k) r) →
    ∃ out, (listOnline tenantId keys).run r = (.ok out, r) ∧
      ∀ v, (∃ rep ∈ out, rep.userId = v) ↔ ∃ k ∈ keys, endsWithState k = false ∧
        userOf tenantId k = v
  | [], _ => ⟨[], rfl, by simp⟩
  | k :: keys, h => by
    obtain ⟨out, hrun, hout⟩ := listOnline_run hup keys
      (fun k' hk' => h k' (List.mem_cons_of_mem _ hk'))
    simp only [listOnline]
    by_cases hk : endsWithState k = true
    · rw [if_pos hk]
      exact ⟨out, hrun, fun v => by simp [hout, hk]⟩
    · rw [if_neg hk]
      obtain ⟨rep, hrep, hname, -⟩ := getPresence_count hup
        (h k List.mem_cons_self (by simpa using hk))
      refine ⟨rep :: out, ?_, fun v => ?_⟩
      · simp only [Prog.bind_eq]
        rw [Prog.run_bind_ok hrep, Prog.run_bind_ok hrun]
        rfl
      · simp [hout, hname, hk]

/-- **Users with safe ids are listed as they are.** -/
theorem Stocked.listsPresent (h : Stocked tenantId users r) (ht : IsUuid tenantId)
    (hsafe : ∀ u ∈ users, SafeId u) : ListsPresent tenantId users r := by
  intro v hv keys hscan
  -- a key that does not look like a state key is the set key of a user
  have huser : ∀ k ∈ keys, endsWithState k = false → ∃ u ∈ users, k = key tenantId u ∧
      members (key tenantId u) r ≠ [] := by
    intro k hk hnot
    obtain ⟨hpre, hlive⟩ := (hscan k).mp hk
    obtain ⟨value, hvalue⟩ := Option.isSome_iff_exists.mp hlive
    have hfit := h.fitting k value hvalue
    cases value with
    | str s =>
      obtain ⟨t', u', -, rfl⟩ := hfit
      rw [stateKey, endsWithState_append] at hnot
      cases hnot
    | set s =>
      obtain ⟨hne, t', u', ht', hu', rfl⟩ := hfit
      obtain rfl := keyPrefix_prefix_key ht ht' hpre
      refine ⟨u', hu' rfl, rfl, ?_⟩
      rw [members, hvalue]
      exact hne
  obtain ⟨out, hrun, hout⟩ := listOnline_run h.up keys (fun k hk hnot => by
    obtain ⟨u, hu, rfl, -⟩ := huser k hk hnot
    rw [userOf_key]
    exact h.typed ht hsafe hu)
  refine ⟨out, by rw [hrun], ?_⟩
  obtain ⟨rep, hrep, -, hcount⟩ := getPresence_count h.up (h.typed ht hsafe hv)
  rw [hout, hrep]
  constructor
  · rintro ⟨k, hk, hnot, hname⟩
    obtain ⟨u, hu, rfl, hne⟩ := huser k hk hnot
    rw [userOf_key] at hname
    subst hname
    exact ⟨rep, rfl, by rw [hcount]; exact List.length_pos_iff.mpr hne⟩
  · rintro ⟨rep', heq, hpos⟩
    obtain rfl : rep = rep' := Except.ok.inj heq
    refine ⟨key tenantId v, (hscan _).mpr ⟨?_, ?_⟩, ?_, userOf_key tenantId v⟩
    · rw [key_eq, String.toList_append]
      exact List.prefix_append _ _
    · -- the set has a member, so the key is there
      by_contra hnone
      rw [Option.not_isSome_iff_eq_none] at hnone
      rw [hcount, members, hnone] at hpos
      simp at hpos
    · rw [← Bool.not_eq_true, endsWithState_key, not_not]
      exact hsafe v hv

/-- A user with a bad id whose set is the only key is present and not listed. -/
theorem lone_unsafe_not_listed (hup : r.faults = []) {u : String} (hu : u ∈ users)
    (hbad : ¬ SafeId u) (hset : members (key tenantId u) r ≠ [])
    (hother : ∀ k, k ≠ key tenantId u → Timed.live r.now (r.presence k) = none) :
    ¬ ListsPresent tenantId users r := by
  have hlive : (Timed.live r.now (r.presence (key tenantId u))).isSome := by
    by_contra hnone
    rw [Option.not_isSome_iff_eq_none] at hnone
    rw [members, hnone] at hset
    exact hset rfl
  have hscan : Scans tenantId [key tenantId u] r := by
    intro k
    rw [List.mem_singleton]
    constructor
    · rintro rfl
      refine ⟨?_, hlive⟩
      rw [key_eq, String.toList_append]
      exact List.prefix_append _ _
    · rintro ⟨-, hk⟩
      by_contra hne
      rw [hother k hne] at hk
      cases hk
  have htyped : Typed tenantId u r := by
    refine ⟨fun s hs => hset (by rw [members, hs]), fun s hs => ?_⟩
    rw [hother _ (key_ne_stateKey tenantId u).symm] at hs
    cases hs
  intro hlists
  obtain ⟨out, hrun, hiff⟩ := hlists u hu _ hscan
  -- the key is taken for a state key
  simp only [listOnline, (endsWithState_key tenantId u).mpr hbad, if_true] at hrun
  obtain rfl : [] = out := Except.ok.inj hrun
  obtain ⟨rep, hrep, -, hcount⟩ := getPresence_count hup htyped
  obtain ⟨_, hmem, _⟩ := hiff.mpr ⟨rep, by rw [hrep], hcount ▸ List.length_pos_iff.mpr hset⟩
  cases hmem

/-- A user with a bad id who comes online in an empty store is not listed. -/
theorem unsafe_not_listed (httl : 0 < env.settings.presenceTtlSeconds)
    (hup : r.faults = []) (hempty : ∀ k, r.presence k = none) {u : String} (hu : u ∈ users)
    (hbad : ¬ SafeId u) (x : ConnId) :
    ¬ ListsPresent tenantId users (PresenceAct.step env r (.call tenantId u (.online x))) := by
  have hstep : PresenceAct.step env r (.call tenantId u (.online x)) =
      (LifeStage.setOnline env tenantId u x r).2 := by
    simp only [PresenceAct.step, PresenceOp.perform, connectionOnline, command, Prog.run_atomic,
      attempt_up _ hup]
    rfl
  have hholds : HoldsSet (key tenantId u) r := fun s => by simp [hempty, Timed.live]
  obtain ⟨r', hrun, hf, -, hmem⟩ := setOnline_spec (x := x) httl hholds
  rw [hstep]
  refine lone_unsafe_not_listed ?_ hu hbad ?_ (fun k hk => ?_)
  · rw [hrun]
    exact hf.trans hup
  · rw [hrun]
    exact List.ne_nil_of_mem ((hmem x).mpr (Or.inl rfl))
  · simp [LifeStage.setOnline, addMember, hempty, Timed.live, expireKey, setPresence, hk]

end Stock

/-! ## 5. Which users keep apart -/

/-- **When users do not interfere.**  Calls for any users of any tenants, from an empty store and on
a clock.  For the users of a tenant it never happens that an operation fails or changes what
`get_presence` says of another user, and `list_online` always lists exactly the users present, if and
only if none of their ids is `state` or ends in `:state`. -/
theorem users_apart_iff (env : Env) (httl : 0 < env.settings.presenceTtlSeconds) (tenantId : String)
    (ht : IsUuid tenantId) (users : Set String) (r : Redis) (hup : r.faults = [])
    (hempty : ∀ k, r.presence k = none) :
    (∀ acts : List PresenceAct, (∀ a ∈ acts, a.By tenantId users) →
      Unaffected env tenantId users (runAll (PresenceAct.step env) r acts) ∧
      ListsPresent tenantId users (runAll (PresenceAct.step env) r acts)) ↔
    ∀ u ∈ users, SafeId u := by
  constructor
  · intro h u hu
    by_contra hbad
    refine unsafe_not_listed httl hup hempty hu hbad "x" (h [.call tenantId u (.online "x")] ?_).2
    intro a ha
    obtain rfl := List.mem_singleton.mp ha
    exact ⟨ht, fun _ => hu⟩
  · intro hsafe acts hacts
    have hstart : Stocked tenantId users r :=
      ⟨hup, fun k v hv => by simp [hempty, Timed.live] at hv⟩
    have hstock : Stocked tenantId users (runAll (PresenceAct.step env) r acts) :=
      runAll_invariant (fun _ a h ha => stocked_step a ha h) acts r hstart (along_of_forall acts hacts)
    exact ⟨hstock.unaffected httl ht hsafe, hstock.listsPresent ht hsafe⟩

/-- A tenant id for worked cases. -/
def exampleTenant : String := "00000000-0000-4000-8000-000000000000"

/-- The user `v` is online; the user `v:state` comes online, and `get_presence` fails for `v`.  If
`v` has reported IDLE before, it is `v:state` that cannot come online. -/
theorem state_suffix_interferes :
    let r := runAll (PresenceAct.step (.plain {})) {} [.call exampleTenant "v" (.online "x")]
    let idle := PresenceAct.step (.plain {}) r (.call exampleTenant "v" (.setState true))
    let after := PresenceAct.step (.plain {}) r (.call exampleTenant "v:state" (.online "y"))
    ((getPresence exampleTenant "v").run r).1 = .ok ⟨"v", .online, 1⟩ ∧
      ((getPresence exampleTenant "v").run after).1 = .error .wrongType ∧
      (((PresenceOp.online "y").perform (.plain {}) exampleTenant "v:state").run idle).1 =
        .error .wrongType := by
  decide +kernel

/-- Two users with ordinary ids. -/
theorem ordinary_ids_apart :
    let r := runAll (PresenceAct.step (.plain {})) {} [.call exampleTenant "v" (.online "x")]
    Unaffected (.plain {}) exampleTenant {"u", "v"} r ∧ ListsPresent exampleTenant {"u", "v"} r := by
  refine (users_apart_iff (.plain {}) (by decide) exampleTenant (by decide +kernel) {"u", "v"} {} rfl
    (fun _ => rfl)).mpr ?_ [.call exampleTenant "v" (.online "x")] ?_
  · rintro u (rfl | rfl) <;> decide
  · intro a ha
    obtain rfl := List.mem_singleton.mp ha
    exact ⟨by decide +kernel, fun _ => Or.inr rfl⟩

end Relay
