/-
# How long a session can be taken up

A handshake is given the session it asks for if `get_session` finds the hash and the hash names its
tenant (`websocket/handler.py`).  The hash lives for `session_resume_window_seconds` from the last
EXPIRE on it, which `create_session` and `touch_session` make after their HSET.

`touch_session` does not look whether the session is still there.  On a hash that has lapsed its
HSET builds a new one, with `last_seen` and `current_node` and without a tenant.  Such a hash is
kept alive by the PONGs of an old connection for as long as they come, but no handshake is given it.

* `session_taken_up_iff`: a session is given to the tenant whose `create_session` has written it, and
  to nobody else, exactly as long as no deadline that an EXPIRE has set on it passes before the next
  EXPIRE, whatever calls overlap and whichever of their commands fail;
* `session_window_exact`: after a renewal that is as long as the window, or longer if there is
  another renewal, and once it has passed without one the session is lost for good.
-/
import Mathlib
import Relay.Handler
import Relay.PresenceUsers
import Relay.SessionClock

namespace Relay

open Redis Stages

/-! ## 1. What a handshake asks -/

/-- A handshake of the tenant that asks for the session is given it. -/
def TakenUp (env : Env) (s : Socket) (tenantId sessionId : String) (r : Redis) : Prop :=
  ((resolveSession env s tenantId (.str sessionId)).run r).1 = .ok sessionId

instance (env : Env) (s : Socket) (tenantId sessionId : String) (r : Redis) :
    Decidable (TakenUp env s tenantId sessionId r) :=
  inferInstanceAs (Decidable (_ = _))

/-- The tenant the hash names, if there is a hash. -/
def sessionOwner (sessionId : String) (r : Redis) : Option String :=
  (Timed.live r.now (r.sessions sessionId)).bind SessionHash.tenantId

theorem not_alive_owner {sessionId : String} {r : Redis} (h : ¬ SessionAlive sessionId r) :
    sessionOwner sessionId r = none := by
  unfold SessionAlive at h
  rw [sessionOwner, Option.not_isSome_iff_eq_none.mp h]
  rfl

section TakenUp

variable {env : Env} {s : Socket} {sessionId : String} {r : Redis}

/-- The calls the handshake goes on with do not fail, and return the id. -/
theorem touchSession_up (nodeId : NodeId) (hup : r.faults = []) :
    ((Sessions.touchSession env sessionId nodeId).run r).1 = .ok () := by
  simp [Sessions.touchSession, Prog.run_bind, run_command_ok, setSession, hup]

theorem createSession_up (tenantId : String) (nodeId : NodeId) (hup : r.faults = []) :
    ((Sessions.createSession env sessionId tenantId nodeId).run r).1 = .ok sessionId := by
  simp [Sessions.createSession, Prog.run_bind, run_command_ok, setSession, hup]

theorem takenUp_iff_owner {tenantId : String} (hsid : sessionId ≠ "")
    (hnew : s.newSessionId ≠ sessionId) (hup : r.faults = []) :
    TakenUp env s tenantId sessionId r ↔ sessionOwner sessionId r = some tenantId := by
  have htruthy : (Json.str sessionId).truthy = true := by simp [Json.truthy, hsid]
  have hread : (requestedSession env (.str sessionId)).run r
      = (.ok (Timed.live r.now (r.sessions sessionId)), r) := by
    unfold requestedSession
    rw [if_pos htruthy, env.strOf_str, Sessions.getSession, run_command_ok hup]
  unfold TakenUp resolveSession
  rw [Prog.bind_eq, Prog.run_bind_ok hread, env.strOf_str, ← sessionOwner]
  by_cases howner : sessionOwner sessionId r = some tenantId
  · refine iff_of_true ?_ howner
    have htouch : (Sessions.touchSession env sessionId env.settings.nodeId).run r = (.ok (), _) :=
      Prod.ext (touchSession_up env.settings.nodeId hup) rfl
    rw [if_pos howner, Prog.bind_eq, Prog.run_bind_ok htouch, Prog.pure_eq, Prog.run_ret]
  · refine iff_of_false ?_ howner
    rw [if_neg howner, createSession_up tenantId env.settings.nodeId hup]
    exact fun h => hnew (Except.ok.inj h)

end TakenUp

/-! ## 2. What a step does to the hash -/

/-- The call has the HSET of `create_session` for this id before it. -/
def SessionStage.creates (sessionId : String) : SessionStage → Bool
  | .create s _ _ => decide (s = sessionId)
  | _ => false

section Hash

variable {env : Env} {sessionId : String} {r : Redis}

/-- `record_ack` does not touch the hashes. -/
theorem AckStage.next_sessions (env : Env) (s : String) (c : Channel) (st : AckStage) (r : Redis) :
    (st.next env s c r).1.now = r.now ∧ (st.next env s c r).1.sessions = r.sessions := by
  cases st <;> simp only [next, and_self] <;> split <;> exact ⟨rfl, rfl⟩

/-- The EXPIRE of the session's hash comes next, and is executed. -/
def SessionStage.Renewing (env : Env) (sessionId : String) (st : SessionStage) (r : Redis) : Prop :=
  st = .expiring sessionId ∧ (st.next env r).2 = .done

instance (env : Env) (sessionId : String) (st : SessionStage) (r : Redis) :
    Decidable (st.Renewing env sessionId r) := inferInstanceAs (Decidable (_ ∧ _))

theorem SessionStage.not_renewing {st : SessionStage} (h : st ≠ .expiring sessionId) :
    ¬ st.Renewing env sessionId r := fun hr => h hr.1

/-- **One command** of a call that does not create the session, on the session's hash: the HSET or
the EXPIRE of `touch_session`, or nothing. -/
theorem SessionStage.next_hash (env : Env) (sessionId : String) (r : Redis) (st : SessionStage)
    (hst : st.creates sessionId = false) :
    (st.next env r).1.now = r.now ∧ (st.next env r).2.creates sessionId = false ∧
      (¬ st.Renewing env sessionId r ∧
          ((st.next env r).1.sessions sessionId = r.sessions sessionId ∨
            ∃ nodeId, (st.next env r).1.sessions sessionId
              = (hsetSeen sessionId nodeId r).2.sessions sessionId) ∨
        st.Renewing env sessionId r ∧ (st.next env r).1.sessions sessionId
          = Timed.expire r.now env.settings.sessionResumeWindowSeconds (r.sessions sessionId)) := by
  cases st with
  | create s tenantId nodeId =>
    have hne : sessionId ≠ s := fun h => of_decide_eq_false hst h.symm
    have hnot : ¬ (create s tenantId nodeId).Renewing env sessionId r := not_renewing (by simp)
    simp only [next]
    rcases attempt_cases (hsetNew s tenantId nodeId) r with ⟨fs, heq⟩ | ⟨fs, heq⟩ <;> rw [heq]
    · exact ⟨rfl, rfl, Or.inl ⟨hnot, Or.inl rfl⟩⟩
    · exact ⟨rfl, rfl, Or.inl ⟨hnot, Or.inl (Function.update_of_ne hne _ _)⟩⟩
  | touch s nodeId =>
    have hnot : ¬ (touch s nodeId).Renewing env sessionId r := not_renewing (by simp)
    simp only [next]
    rcases attempt_cases (hsetSeen s nodeId) r with ⟨fs, heq⟩ | ⟨fs, heq⟩ <;> rw [heq]
    · exact ⟨rfl, rfl, Or.inl ⟨hnot, Or.inl rfl⟩⟩
    · by_cases h : sessionId = s
      · subst h
        exact ⟨rfl, rfl, Or.inl ⟨hnot, Or.inr ⟨nodeId, rfl⟩⟩⟩
      · exact ⟨rfl, rfl, Or.inl ⟨hnot, Or.inl (Function.update_of_ne h _ _)⟩⟩
  | expiring s =>
    unfold Renewing
    simp only [next]
    rcases attempt_cases (expireHash env s) r with ⟨fs, heq⟩ | ⟨fs, heq⟩ <;> rw [heq]
    · exact ⟨rfl, rfl, Or.inl ⟨by simp [settle], Or.inl rfl⟩⟩
    · by_cases h : sessionId = s
      · subst h
        exact ⟨rfl, rfl, Or.inr ⟨⟨rfl, rfl⟩, Function.update_self _ _ _⟩⟩
      · refine ⟨rfl, rfl, Or.inl ⟨fun hs => h ?_, Or.inl (Function.update_of_ne h _ _)⟩⟩
        exact (SessionStage.expiring.inj hs.1).symm
  | ack s c st =>
    obtain ⟨hnow, hhash⟩ := AckStage.next_sessions env s c st r
    exact ⟨hnow, rfl, Or.inl ⟨not_renewing (by simp), Or.inl (congrFun hhash sessionId)⟩⟩
  | done => exact ⟨rfl, rfl, Or.inl ⟨not_renewing (by simp), Or.inl rfl⟩⟩
  | failed e => exact ⟨rfl, rfl, Or.inl ⟨not_renewing (by simp), Or.inl rfl⟩⟩

/-- The HSET of `touch_session` leaves the owner as it is: a hash that is there keeps its tenant, and
a new one has none. -/
theorem owner_hsetSeen (nodeId : NodeId) :
    sessionOwner sessionId (SessionStage.hsetSeen sessionId nodeId r).2
      = sessionOwner sessionId r := by
  simp only [sessionOwner, SessionStage.hsetSeen, setSession, Function.update_self]
  cases hold : Timed.live r.now (r.sessions sessionId) with
  | none =>
    have hdeadline : Timed.deadlineOf r.now (r.sessions sessionId) = none := by
      simp only [Timed.deadlineOf, hold]
    rw [hdeadline]
    rfl
  | some hash => rw [Timed.live_deadlineOf hold, Option.bind_some, Option.bind_some]

/-- The owner of a hash that is read later, of the same key. -/
theorem owner_of_live {r' : Redis}
    (h : ∀ v, Timed.live r'.now (r'.sessions sessionId) = some v →
      Timed.live r.now (r.sessions sessionId) = some v) :
    sessionOwner sessionId r' = sessionOwner sessionId r ∨ ¬ SessionAlive sessionId r' := by
  cases hlive : Timed.live r'.now (r'.sessions sessionId) with
  | none => exact Or.inr (by simp [SessionAlive, hlive])
  | some v => exact Or.inl (by rw [sessionOwner, sessionOwner, hlive, h v hlive])

end Hash

/-! ## 3. The owner along a run -/

section Owner

variable {env : Env} {sessionId : String} {w : Tasks Redis SessionStage}

/-- No call creates the session: its id was drawn once. -/
def Undoubled (sessionId : String) (w : Tasks Redis SessionStage) : Prop :=
  ∀ st ∈ w.stages, st.creates sessionId = false

instance (sessionId : String) (w : Tasks Redis SessionStage) : Decidable (Undoubled sessionId w) :=
  inferInstanceAs (Decidable (∀ st ∈ w.stages, st.creates sessionId = false))

theorem undoubled_step (h : Undoubled sessionId w) (a : SessionAct) :
    Undoubled sessionId (a.step env w) := by
  cases a with
  | tick d => exact h
  | run i =>
    rcases Tasks.step_cases (SessionStage.next env) w i with ⟨-, heq⟩ | ⟨pre, st, post, hl, -, heq⟩
    · rw [SessionAct.step, heq]
      exact h
    · rw [SessionAct.step, heq]
      simp only [Undoubled, hl, List.forall_mem_append, List.forall_mem_cons] at h ⊢
      exact ⟨h.1, (st.next_hash env sessionId w.state h.2.1).2.1, h.2.2⟩

/-- The step is the HSET of a `create_session` of the id. -/
def Creating (sessionId : String) (w : Tasks Redis SessionStage) : SessionAct → Prop
  | .run i => ∃ st ∈ w.stages[i]?, st.creates sessionId = true
  | .tick _ => False

theorem not_creating (h : Undoubled sessionId w) (a : SessionAct) : ¬ Creating sessionId w a := by
  cases a with
  | tick d => exact id
  | run i =>
    rintro ⟨st, hst, hcreates⟩
    rw [h st (List.mem_of_getElem? hst)] at hcreates
    cases hcreates

/-- **One step**: the hash keeps its owner or is gone. -/
theorem owner_step {a : SessionAct} (h : ¬ Creating sessionId w a) :
    sessionOwner sessionId (a.step env w).state = sessionOwner sessionId w.state ∨
      ¬ SessionAlive sessionId (a.step env w).state := by
  cases a with
  | tick d => exact owner_of_live (fun v hv => live_anti (Nat.le_add_right _ d) hv)
  | run i =>
    rcases Tasks.step_cases (SessionStage.next env) w i with ⟨-, heq⟩ | ⟨_, st, _, -, hget, heq⟩
    · rw [SessionAct.step, heq]
      exact Or.inl rfl
    · rw [SessionAct.step, heq]
      have hst : st.creates sessionId = false := by
        simpa using fun hcreates => h ⟨st, hget, hcreates⟩
      obtain ⟨hnow, -, ⟨-, hsame | ⟨nodeId, hseen⟩⟩ | ⟨-, hrenewed⟩⟩ :=
        st.next_hash env sessionId w.state hst
      · exact Or.inl (by rw [sessionOwner, sessionOwner, hnow, hsame])
      · refine Or.inl (Eq.trans ?_ (owner_hsetSeen nodeId))
        rw [sessionOwner, sessionOwner, hnow, hseen]
        rfl
      · refine owner_of_live (fun v hv => ?_)
        rw [hnow, hrenewed] at hv
        exact live_of_expire hv

/-- A session without an owner has none after a step that does not create it. -/
theorem ownerless_step {a : SessionAct} (h : ¬ Creating sessionId w a)
    (hnone : sessionOwner sessionId w.state = none) :
    sessionOwner sessionId (a.step env w).state = none := by
  rcases owner_step h with hsame | hgone
  · rw [hsame, hnone]
  · exact not_alive_owner hgone

theorem ownerless_run (h : Undoubled sessionId w) (hnone : sessionOwner sessionId w.state = none)
    (acts : List SessionAct) :
    sessionOwner sessionId (runAll (SessionAct.step env) w acts).state = none :=
  (@runAll_invariant' _ _ (SessionAct.step env)
    (fun w => Undoubled sessionId w ∧ sessionOwner sessionId w.state = none)
    (fun _ a h => ⟨undoubled_step h.1 a, ownerless_step (not_creating h.1 a) h.2⟩) acts w
      ⟨h, hnone⟩).2

theorem undoubled_run : ∀ (acts : List SessionAct) {w : Tasks Redis SessionStage},
    Undoubled sessionId w → Undoubled sessionId (runAll (SessionAct.step env) w acts)
  | [], _, hone => hone
  | a :: acts, _, hone => undoubled_run acts (undoubled_step hone a)

end Owner

/-! ## 4. The deadlines of a hash -/

/-- A hash with this deadline is renewed at these moments and read at `now`, and no deadline passes
before the next renewal. -/
def Unbroken (window : Nat) : Option Nat → List Nat → Nat → Prop
  | deadline, [], now => ∀ t ∈ deadline, now ≤ t
  | deadline, renewed :: later, now =>
    (∀ t ∈ deadline, renewed ≤ t) ∧ Unbroken window (some (renewed + window)) later now

instance (window : Nat) : ∀ (deadline : Option Nat) (renewals : List Nat) (now : Nat),
    Decidable (Unbroken window deadline renewals now)
  | _, [], _ => inferInstanceAs (Decidable (∀ _ ∈ _, _))
  | _, renewed :: later, now =>
    have := instDecidableUnbroken window (some (renewed + window)) later now
    inferInstanceAs (Decidable (_ ∧ _))

/-- A renewal does not bring the end nearer. -/
theorem unbroken_of_le {window now : Nat} : ∀ {deadline : Nat} (renewals : List Nat),
    now ≤ deadline → (∀ t ∈ renewals, t ≤ now ∧ now ≤ t + window) →
    Unbroken window (some deadline) renewals now
  | _, [], hnow, _ => fun t ht => hnow.trans_eq (Option.mem_some.mp ht)
  | _, t :: later, hnow, hall => by
    obtain ⟨⟨hle, hwindow⟩, hlater⟩ := List.forall_mem_cons.mp hall
    exact ⟨fun d hd => (hle.trans hnow).trans_eq (Option.mem_some.mp hd),
      unbroken_of_le later hwindow hlater⟩

/-- A deadline that has passed is not made good. -/
theorem not_unbroken_of_lt {window now deadline m : Nat} (hm : deadline < m) :
    ∀ {renewals : List Nat}, (∀ t ∈ renewals, m ≤ t) → m ≤ now →
      ¬ Unbroken window (some deadline) renewals now
  | [], _, hnow, h => absurd (h deadline rfl) (by omega)
  | t :: _, hall, _, h => by
    have hle : m ≤ t := hall t List.mem_cons_self
    have hdue : t ≤ deadline := h.1 deadline rfl
    omega

/-- The moment at which a step executes an EXPIRE of the session's hash. -/
def renewedAt (env : Env) (sessionId : String) (w : Tasks Redis SessionStage) :
    SessionAct → List Nat
  | .run i => if ∃ st ∈ w.stages[i]?, st.Renewing env sessionId w.state then [w.state.now] else []
  | .tick _ => []

/-- The moments at which a run does. -/
def renewals (env : Env) (sessionId : String) : Tasks Redis SessionStage → List SessionAct → List Nat :=
  emitted (SessionAct.step env) (renewedAt env sessionId)

/-- The hash is stored with this owner and this deadline. -/
def Held (sessionId tenantId : String) (deadline : Option Nat) (r : Redis) : Prop :=
  ∃ v : SessionHash, r.sessions sessionId = some ⟨v, deadline⟩ ∧ v.tenantId = some tenantId

section Held

variable {env : Env} {sessionId tenantId : String} {deadline : Option Nat}
  {w : Tasks Redis SessionStage}

theorem Held.live {r : Redis} (h : Held sessionId tenantId deadline r)
    (hlive : ∀ t ∈ deadline, r.now ≤ t) : ∃ v : SessionHash, v.tenantId = some tenantId ∧
      Timed.live r.now (r.sessions sessionId) = some v ∧
      Timed.deadlineOf r.now (r.sessions sessionId) = deadline := by
  obtain ⟨v, hkey, hv⟩ := h
  have hread : Timed.live r.now (some ⟨v, deadline⟩) = some v := by
    cases deadline with
    | none => rfl
    | some t => exact if_pos (hlive t rfl)
  rw [hkey]
  exact ⟨v, hv, hread, by simp only [Timed.deadlineOf, hread]⟩

theorem Held.lapsed {r : Redis} {t : Nat} (h : Held sessionId tenantId (some t) r)
    (hlate : t < r.now) : sessionOwner sessionId r = none := by
  obtain ⟨v, hkey, -⟩ := h
  rw [sessionOwner, hkey, Timed.live, if_neg (Nat.not_le.mpr hlate), Option.bind_none]

/-- The clock of a run does not go back. -/
theorem SessionAct.now_le (hone : Undoubled sessionId w) (a : SessionAct) :
    w.state.now ≤ (a.step env w).state.now := by
  cases a with
  | tick d => exact Nat.le_add_right _ d
  | run i =>
    rcases Tasks.step_cases (SessionStage.next env) w i with ⟨-, heq⟩ | ⟨pre, st, post, hl, -, heq⟩
    · rw [SessionAct.step, heq]
    · rw [SessionAct.step, heq]
      exact (st.next_hash env sessionId w.state (hone st (by simp [hl]))).1.ge

theorem SessionAct.now_le_run : ∀ (acts : List SessionAct) {w : Tasks Redis SessionStage},
    Undoubled sessionId w → w.state.now ≤ (runAll (SessionAct.step env) w acts).state.now
  | [], _, _ => le_rfl
  | a :: acts, _, hone => (a.now_le hone).trans (now_le_run acts (undoubled_step hone a))

/-- The renewals of a run are made while it lasts. -/
theorem renewals_bounds : ∀ (acts : List SessionAct) {w : Tasks Redis SessionStage},
    Undoubled sessionId w → ∀ t ∈ renewals env sessionId w acts,
      w.state.now ≤ t ∧ t ≤ (runAll (SessionAct.step env) w acts).state.now
  | [], _, _, _, ht => absurd ht List.not_mem_nil
  | a :: acts, w, hone, t, ht => by
    have hone' : Undoubled sessionId (a.step env w) := undoubled_step hone a
    rcases List.mem_append.mp ht with ht | ht
    · have hnow : t = w.state.now := by
        cases a with
        | tick d => cases ht
        | run i =>
          simp only [renewedAt] at ht
          split at ht
          · exact List.mem_singleton.mp ht
          · cases ht
      exact ⟨hnow.ge, hnow.trans_le (SessionAct.now_le_run (a :: acts) hone)⟩
    · obtain ⟨hfrom, hto⟩ := renewals_bounds acts hone' t ht
      exact ⟨(a.now_le hone).trans hfrom, hto⟩

/-- **One step** on a hash that is there: an EXPIRE gives it the window, and nothing else changes its
deadline. -/
theorem held_step (hwindow : 0 < env.settings.sessionResumeWindowSeconds)
    (hone : Undoubled sessionId w) (h : Held sessionId tenantId deadline w.state)
    (hlive : ∀ t ∈ deadline, w.state.now ≤ t) (a : SessionAct) :
    (renewedAt env sessionId w a = [] ∧ Held sessionId tenantId deadline (a.step env w).state) ∨
      (renewedAt env sessionId w a = [w.state.now] ∧ Held sessionId tenantId
        (some (w.state.now + env.settings.sessionResumeWindowSeconds * 1000000))
        (a.step env w).state) := by
  cases a with
  | tick d => exact Or.inl ⟨rfl, h⟩
  | run i =>
    rcases Tasks.step_cases (SessionStage.next env) w i with
      ⟨hget, heq⟩ | ⟨pre, st, post, hl, hget, heq⟩
    · rw [SessionAct.step, heq]
      exact Or.inl ⟨by simp [renewedAt, hget], h⟩
    · rw [SessionAct.step, heq]
      obtain ⟨v, howner, hread, hdeadline⟩ := h.live hlive
      have hat : renewedAt env sessionId w (.run i) =
          if st.Renewing env sessionId w.state then [w.state.now] else [] := by
        simp [renewedAt, Option.mem_def.mp hget]
      obtain ⟨-, -, ⟨hnot, hhash⟩ | ⟨hrenewing, hrenewed⟩⟩ :=
        st.next_hash env sessionId w.state (hone st (by simp [hl]))
      · refine Or.inl ⟨by rw [hat, if_neg hnot], ?_⟩
        rcases hhash with hsame | ⟨nodeId, hseen⟩
        · obtain ⟨u, hkey, hu⟩ := h
          exact ⟨u, hsame.trans hkey, hu⟩
        · simp only [SessionStage.hsetSeen, setSession, Function.update_self, hread, hdeadline,
            Option.bind_some] at hseen
          exact ⟨_, hseen, howner⟩
      · refine Or.inr ⟨by rw [hat, if_pos hrenewing], v, ?_, howner⟩
        rw [hrenewed, Timed.expire, hread, Option.bind_some, Timed.lasting_pos hwindow]

/-- **A whole run**: the session has its owner as long as its deadlines are met, and then none. -/
theorem held_run (hwindow : 0 < env.settings.sessionResumeWindowSeconds) :
    ∀ (acts : List SessionAct) {w : Tasks Redis SessionStage} {deadline : Option Nat},
    Undoubled sessionId w → Held sessionId tenantId deadline w.state →
    sessionOwner sessionId (runAll (SessionAct.step env) w acts).state =
      if Unbroken (env.settings.sessionResumeWindowSeconds * 1000000) deadline
        (renewals env sessionId w acts) (runAll (SessionAct.step env) w acts).state.now
      then some tenantId else none
  | acts, w, deadline, hone, h => by
    by_cases hlive : ∀ t ∈ deadline, w.state.now ≤ t
    · cases acts with
      | nil =>
        obtain ⟨v, howner, hread, -⟩ := h.live hlive
        rw [runAll_nil, sessionOwner, hread, Option.bind_some, howner]
        exact (if_pos hlive).symm
      | cons a acts =>
        have hone' : Undoubled sessionId (a.step env w) := undoubled_step hone a
        rw [runAll_cons, renewals, emitted_cons]
        rcases held_step hwindow hone h hlive a with ⟨hnone, hnext⟩ | ⟨hat, hnext⟩
        · rw [hnone, List.nil_append]
          exact held_run hwindow acts hone' hnext
        · rw [hat, held_run hwindow acts hone' hnext]
          exact if_congr ⟨fun hrest => ⟨hlive, hrest⟩, And.right⟩ rfl rfl
    · -- the deadline has passed: the owner is gone, and no renewal can be early enough
      obtain ⟨t, rfl, hlate⟩ : ∃ t, deadline = some t ∧ t < w.state.now := by
        simpa [Option.mem_def, and_comm] using hlive
      rw [ownerless_run hone (h.lapsed hlate) acts, if_neg]
      exact not_unbroken_of_lt hlate (fun t' ht' => (renewals_bounds acts hone t' ht').1)
        (SessionAct.now_le_run acts hone)

end Held

/-! ## 5. From the creation on -/

/-- The step executes the HSET of a `create_session` of the id. -/
def Creates (env : Env) (sessionId : String) (w : Tasks Redis SessionStage) : SessionAct → Prop
  | .run i => ∃ st ∈ w.stages[i]?, st.creates sessionId = true ∧
      (st.next env w.state).2 = .expiring sessionId
  | .tick _ => False

instance (env : Env) (sessionId : String) (w : Tasks Redis SessionStage) :
    ∀ a, Decidable (Creates env sessionId w a)
  | .run _ => inferInstanceAs (Decidable (∃ _ ∈ _, _ ∧ _))
  | .tick _ => isFalse id

/-- The calls that still have to create the session. -/
def creators (sessionId : String) (w : Tasks Redis SessionStage) : List SessionStage :=
  w.stages.filter (SessionStage.creates sessionId)

section Created

variable {env : Env} {sessionId tenantId : String} {nodeId : NodeId} {w : Tasks Redis SessionStage}

theorem undoubled_iff_creators : Undoubled sessionId w ↔ creators sessionId w = [] := by
  simp [Undoubled, creators, List.filter_eq_nil_iff]

theorem creators_of_not_creating {a : SessionAct} (h : ¬ Creating sessionId w a) :
    creators sessionId (a.step env w) = creators sessionId w := by
  cases a with
  | tick d => rfl
  | run i =>
    rcases Tasks.step_cases (SessionStage.next env) w i with
      ⟨-, heq⟩ | ⟨pre, st, post, hl, hget, heq⟩
    · rw [SessionAct.step, heq]
    · have hst : st.creates sessionId = false := by
        simpa using fun hcreates => h ⟨st, hget, hcreates⟩
      rw [SessionAct.step, heq]
      simp [creators, hl, hst, (st.next_hash env sessionId w.state hst).2.1]

/-- **The HSET** of the one call that is to create the session: it fails or stores the hash. -/
theorem creating_step (h : creators sessionId w = [.create sessionId tenantId nodeId])
    {a : SessionAct} (ha : Creating sessionId w a) :
    creators sessionId (a.step env w) = [] ∧
      (¬ Creates env sessionId w a ∧
          sessionOwner sessionId (a.step env w).state = sessionOwner sessionId w.state ∨
        Creates env sessionId w a ∧ Held sessionId tenantId
          (Timed.deadlineOf w.state.now (w.state.sessions sessionId)) (a.step env w).state) := by
  cases a with
  | tick d => exact ha.elim
  | run i =>
    obtain ⟨st, hst, hcreates⟩ := ha
    rcases Tasks.step_cases (SessionStage.next env) w i with
      ⟨hnone, -⟩ | ⟨pre, st', post, hl, hget, heq⟩
    · rw [hnone] at hst
      cases hst
    obtain rfl : st' = st := Option.some.inj (hget.symm.trans hst)
    -- it is the call of the hypothesis, and there is no other
    obtain ⟨hpre, rfl, hpost⟩ : pre.filter (SessionStage.creates sessionId) = [] ∧
        st' = .create sessionId tenantId nodeId ∧
        post.filter (SessionStage.creates sessionId) = [] := by
      rw [creators, hl, List.filter_append, List.filter_cons_of_pos hcreates,
        List.append_eq_singleton_iff] at h
      rcases h with ⟨hpre, hrest⟩ | ⟨-, hrest⟩
      · obtain ⟨rfl, hpost⟩ := List.cons.inj hrest
        exact ⟨hpre, rfl, hpost⟩
      · cases hrest
    have hcreate : Creates env sessionId w (.run i) ↔
        ((SessionStage.create sessionId tenantId nodeId).next env w.state).2
          = .expiring sessionId := by
      simp [Creates, hget, hcreates]
    rw [hcreate, SessionAct.step, heq]
    simp only [SessionStage.next]
    rcases attempt_cases (SessionStage.hsetNew sessionId tenantId nodeId) w.state with
      ⟨fs, hfail⟩ | ⟨fs, hdone⟩
    · rw [hfail]
      exact ⟨by simp [creators, settle, hpre, hpost, SessionStage.creates],
        Or.inl ⟨by simp [settle], rfl⟩⟩
    · rw [hdone]
      refine ⟨by simp [creators, SessionStage.hsetNew, settle, hpre, hpost,
        SessionStage.creates], Or.inr ⟨rfl, _, Function.update_self _ _ _, rfl⟩⟩

/-- The call that is to create the session stays as it is until its HSET. -/
theorem creators_or_step
    (h : creators sessionId w = [.create sessionId tenantId nodeId] ∨ Undoubled sessionId w)
    (a : SessionAct) : creators sessionId (a.step env w) = [.create sessionId tenantId nodeId] ∨
      Undoubled sessionId (a.step env w) := by
  rcases h with h | hone
  · by_cases ha : Creating sessionId w a
    · exact Or.inr (undoubled_iff_creators.mpr (creating_step h ha).1)
    · exact Or.inl ((creators_of_not_creating ha).trans h)
  · exact Or.inr (undoubled_step hone a)

/-- Until the HSET is executed the session has no owner. -/
theorem unknown_run (h : creators sessionId w = [.create sessionId tenantId nodeId])
    (hnone : sessionOwner sessionId w.state = none) (acts : List SessionAct)
    (hacts : Along (SessionAct.step env) (fun w a => ¬ Creates env sessionId w a) w acts) :
    sessionOwner sessionId (runAll (SessionAct.step env) w acts).state = none := by
  refine (@runAll_invariant _ _ (SessionAct.step env) (fun w a => ¬ Creates env sessionId w a)
    (fun w => (creators sessionId w = [.create sessionId tenantId nodeId] ∨ Undoubled sessionId w) ∧
      sessionOwner sessionId w.state = none) (fun w a hw ha => ?_) acts w ⟨Or.inl h, hnone⟩ hacts).2
  refine ⟨creators_or_step hw.1 a, ?_⟩
  by_cases hc : Creating sessionId w a
  · rcases hw.1 with hone | hone
    · rcases (creating_step hone hc).2 with ⟨-, hsame⟩ | ⟨hyes, -⟩
      · rw [hsame, hw.2]
      · exact absurd hyes ha
    · exact absurd hc (not_creating hone a)
  · exact ownerless_step hc hw.2

/-- Once it is, the session is its tenant's as long as the deadlines are met. -/
theorem created_run (hwindow : 0 < env.settings.sessionResumeWindowSeconds)
    (h : creators sessionId w = [.create sessionId tenantId nodeId]) (before : List SessionAct)
    {a : SessionAct} (ha : Creates env sessionId (runAll (SessionAct.step env) w before) a)
    (after : List SessionAct) :
    let created := runAll (SessionAct.step env) w before
    let ended := runAll (SessionAct.step env) w (before ++ a :: after)
    sessionOwner sessionId ended.state =
      if Unbroken (env.settings.sessionResumeWindowSeconds * 1000000)
        (Timed.deadlineOf created.state.now (created.state.sessions sessionId))
        (renewals env sessionId (a.step env created) after) ended.state.now
      then some tenantId else none := by
  intro created ended
  have hc : Creating sessionId created a := by
    cases a with
    | tick d => exact ha.elim
    | run i =>
      obtain ⟨st, hst, hcreates, -⟩ := ha
      exact ⟨st, hst, hcreates⟩
  have hone : creators sessionId created = [.create sessionId tenantId nodeId] :=
    (@runAll_invariant' _ _ (SessionAct.step env) (fun w => creators sessionId w
      = [.create sessionId tenantId nodeId] ∨ Undoubled sessionId w)
      (fun _ a hw => creators_or_step hw a) before w (Or.inl h)).resolve_right
        (fun hone => not_creating hone a hc)
  obtain ⟨hover, ⟨hno, -⟩ | ⟨-, hheld⟩⟩ := @creating_step env _ _ _ _ hone _ hc
  · exact absurd ha hno
  · have hsplit : ended = runAll (SessionAct.step env) (a.step env created) after := by
      simp only [ended, created, runAll_append, runAll_cons]
    rw [hsplit]
    exact held_run hwindow after (undoubled_iff_creators.mpr hover) hheld

end Created

/-- **Who is given a session.**  Any calls of `create_session`, `touch_session` and `record_ack`,
their commands interleaved in any way on a clock and any of them failing, of which one is to create
the session for `tenantId`; the session has no owner at the start.  After the run a handshake that
asks for the session is given it if and only if it is a handshake of that tenant, the HSET of the
`create_session` has been executed, and since then no deadline of the hash has passed before the next
EXPIRE on it was executed, nor before the handshake.  In particular no `touch_session`, by a PONG on
a connection that outlived the hash, brings a session back. -/
theorem session_taken_up_iff (env : Env) (hwindow : 0 < env.settings.sessionResumeWindowSeconds)
    (s : Socket) (sessionId tenantId : String) (nodeId : NodeId) (hsid : sessionId ≠ "")
    (hnew : s.newSessionId ≠ sessionId) (w : Tasks Redis SessionStage)
    (hone : creators sessionId w = [.create sessionId tenantId nodeId])
    (hnone : sessionOwner sessionId w.state = none) (acts : List SessionAct)
    (hup : (runAll (SessionAct.step env) w acts).state.faults = []) (asking : String) :
    let ended := runAll (SessionAct.step env) w acts
    TakenUp env s asking sessionId ended.state ↔ asking = tenantId ∧
      ∃ before a after, acts = before ++ a :: after ∧
        let created := runAll (SessionAct.step env) w before
        Creates env sessionId created a ∧
        Unbroken (env.settings.sessionResumeWindowSeconds * 1000000)
          (Timed.deadlineOf created.state.now (created.state.sessions sessionId))
          (renewals env sessionId (a.step env created) after) ended.state.now := by
  intro ended
  rw [takenUp_iff_owner hsid hnew hup]
  constructor
  · intro howner
    rcases along_or_exists (fun w a => ¬ Creates env sessionId w a) w acts with
      hnever | ⟨before, a, after, rfl, ha⟩
    · rw [unknown_run hone hnone acts hnever] at howner
      cases howner
    · rw [created_run hwindow hone before (not_not.mp ha) after] at howner
      split at howner
      · rename_i hunbroken
        exact ⟨(Option.some.inj howner).symm, before, a, after, rfl, not_not.mp ha, hunbroken⟩
      · cases howner
  · rintro ⟨rfl, before, a, after, rfl, ha, hunbroken⟩
    rw [created_run hwindow hone before ha after, if_pos hunbroken]

/-- A `create_session`, and a PONG that comes some time. -/
def newSession : Tasks Redis SessionStage :=
  ⟨{}, [.create "s" "t" "node-1", .touch "s" "node-2"]⟩

/-- A socket whose handshake asks for a session. -/
def askingSocket : Socket := ⟨"conn", "new", none, .ok "t"⟩

/-- A PONG in time keeps the session past its first deadline; a PONG after it makes a hash that is
there and that nobody is given. -/
theorem session_taken_up_by_time :
    let step := SessionAct.step (.plain {})
    let late := runAll step newSession [.run 0, .run 0, .tick 301000000, .run 1, .run 1]
    TakenUp (.plain {}) askingSocket "t" "s" (runAll step newSession
        [.run 0, .run 0, .tick 299000000, .run 1, .run 1, .tick 299000000]).state ∧
      SessionAlive "s" late.state ∧ ¬ TakenUp (.plain {}) askingSocket "t" "s" late.state := by
  refine ⟨?_, by decide +kernel, by decide +kernel⟩
  refine (session_taken_up_iff (.plain {}) (by decide) askingSocket "s" "t" "node-1" (by decide)
    (by decide) newSession rfl rfl _ (by decide +kernel) "t").mpr
      ⟨rfl, [], .run 0, _, rfl, by decide +kernel, by decide +kernel⟩

/-! ## 6. The window -/

/-- The EXPIRE of a renewal, while the hash has its owner. -/
theorem held_of_renewing {env : Env} (hwindow : 0 < env.settings.sessionResumeWindowSeconds)
    {sessionId tenantId : String} {st : SessionStage} {r : Redis}
    (howner : sessionOwner sessionId r = some tenantId) (hst : st.Renewing env sessionId r) :
    Held sessionId tenantId (some (r.now + env.settings.sessionResumeWindowSeconds * 1000000))
        (st.next env r).1 ∧ (st.next env r).1.now = r.now := by
  obtain ⟨v, hlive, hv⟩ := Option.bind_eq_some_iff.mp howner
  have hcreates : st.creates sessionId = false := by rw [hst.1]; rfl
  obtain ⟨hnow, -, ⟨hnot, -⟩ | ⟨-, hkey⟩⟩ := st.next_hash env sessionId r hcreates
  · exact absurd hst hnot
  · refine ⟨⟨v, ?_, hv⟩, hnow⟩
    rw [hkey, Timed.expire, hlive, Option.bind_some, Timed.lasting_pos hwindow]

/-- **The window.**  A step executes the EXPIRE of a renewal on a session that has its owner.  From
then on any calls run, interleaved in any way and any of their commands failing.  As long as the
window has not passed, the tenant is given the session.  If it passes and no other EXPIRE on the hash
is executed meanwhile, nobody is given the session, then or at any later time. -/
theorem session_window_exact (env : Env) (hwindow : 0 < env.settings.sessionResumeWindowSeconds)
    (s : Socket) (sessionId tenantId : String) (hsid : sessionId ≠ "")
    (hnew : s.newSessionId ≠ sessionId) (w : Tasks Redis SessionStage)
    (hone : Undoubled sessionId w) (howner : sessionOwner sessionId w.state = some tenantId)
    (i : Nat) (st : SessionStage) (hst : w.stages[i]? = some st)
    (hrenewal : st.Renewing env sessionId w.state) (acts : List SessionAct) :
    let deadline := w.state.now + env.settings.sessionResumeWindowSeconds * 1000000
    let before := runAll (SessionAct.step env) w [.run i]
    let after := runAll (SessionAct.step env) before acts
    (after.state.now ≤ deadline → after.state.faults = [] →
        TakenUp env s tenantId sessionId after.state) ∧
      (renewals env sessionId before acts = [] → deadline < after.state.now →
        ∀ later asking, let ended := runAll (SessionAct.step env) after later
          ended.state.faults = [] → ¬ TakenUp env s asking sessionId ended.state) := by
  intro deadline before after
  have hstep : before.state = (st.next env w.state).1 := by
    simp only [before, runAll_cons, runAll_nil, SessionAct.step, Tasks.step, hst]
  obtain ⟨hheld, hnow⟩ := held_of_renewing hwindow howner hrenewal
  rw [← hstep] at hheld hnow
  have hone' : Undoubled sessionId before := undoubled_run [.run i] hone
  have hend := held_run hwindow acts hone' hheld
  constructor
  · intro hbefore hup
    refine (takenUp_iff_owner hsid hnew hup).mpr (hend.trans (if_pos ?_))
    refine unbroken_of_le _ hbefore (fun t ht => ?_)
    obtain ⟨hfrom, hto⟩ := renewals_bounds acts hone' t ht
    exact ⟨hto, hbefore.trans (Nat.add_le_add_right (hnow ▸ hfrom) _)⟩
  · intro hquiet hpassed later asking ended hup
    have hgone : sessionOwner sessionId after.state = none := by
      refine hend.trans (if_neg ?_)
      rw [hquiet]
      exact fun h => absurd (h deadline rfl) (Nat.not_le.mpr hpassed)
    rw [takenUp_iff_owner hsid hnew hup, ownerless_run (undoubled_run acts hone') hgone later]
    exact fun h => by cases h

/-- Renewed at 0, taken up at the last moment of the window although a PONG in between failed, and
lost once it has ended although a PONG comes then. -/
theorem session_window_of_renewed :
    let step := SessionAct.step (.plain {})
    let created : Tasks Redis SessionStage := runAll step
      ⟨{ faults := [false, false, true] }, newSession.stages ++ [.touch "s" "node-2"]⟩ [.run 0]
    let before := runAll step created [.run 0]
    TakenUp (.plain {}) askingSocket "t" "s"
        (runAll step before [.tick 299000000, .run 1, .tick 1000000]).state ∧
      ∀ asking, ¬ TakenUp (.plain {}) askingSocket asking "s"
        (runAll step (runAll step before [.run 1, .tick 301000000])
          [.run 2, .run 2, .tick 1000000]).state := by
  intro step created before
  have h := session_window_exact (.plain {}) (by decide) askingSocket "s" "t" (by decide)
    (by decide) created (by decide +kernel) (by decide +kernel) 0 (.expiring "s")
    (by decide +kernel) (by decide +kernel)
  exact ⟨(h [.tick 299000000, .run 1, .tick 1000000]).1 (by decide +kernel) (by decide +kernel),
    fun asking => (h [.run 1, .tick 301000000]).2 (by decide +kernel) (by decide +kernel)
      [.run 2, .run 2, .tick 1000000] asking (by decide +kernel)⟩

end Relay
