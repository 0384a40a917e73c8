/-
# The age of a session and of its positions

A session is a hash in Redis, and each acknowledged position of it a key of its own
(`sessions/manager.py`).  All are written with the TTL `session_resume_window_seconds`, but not by
the same calls: `create_session` and `touch_session` renew the hash, `record_ack` writes the one
position that advances.  A PONG keeps the session alive and renews no position, so on a channel that
is quiet for the length of the window the position lapses while the session lives on
(`position_lapses_before_session`), and a later RESUME starts from 0.

`session_keeps_position` says when a position is kept: as long as the clock does not pass its
deadline before the session's own, and no overlapping `record_ack` writes a smaller number over it.
-/
import Mathlib
import Relay.Positions

namespace Relay

open Redis Stages

/-! ## 1. The calls by stages -/

/-- How far a call of the session manager has come. -/
inductive SessionStage
  /-- Before the HSET of `create_session`. -/
  | create (sessionId tenantId : String) (nodeId : NodeId)
  /-- Before the HSET of `touch_session`. -/
  | touch (sessionId : String) (nodeId : NodeId)
  /-- Before the EXPIRE of either. -/
  | expiring (sessionId : String)
  /-- A call of `record_ack`. -/
  | ack (sessionId : String) (channel : Channel) (st : AckStage)
  | done
  | failed (e : Exn)
  deriving DecidableEq, Repr

namespace SessionStage

/-- The HSET of `create_session`. -/
def hsetNew (sessionId tenantId : String) (nodeId : NodeId) (r : Redis) : Except Exn Unit × Redis :=
  (.ok (), r.setSession sessionId
    (some ⟨⟨some tenantId, nodeId, some r.now, r.now⟩,
      Timed.deadlineOf r.now (r.sessions sessionId)⟩))

/-- The HSET of `touch_session`. -/
def hsetSeen (sessionId : String) (nodeId : NodeId) (r : Redis) : Except Exn Unit × Redis :=
  let old := Timed.live r.now (r.sessions sessionId)
  (.ok (), r.setSession sessionId
    (some ⟨⟨old.bind SessionHash.tenantId, nodeId, old.bind SessionHash.createdAt, r.now⟩,
      Timed.deadlineOf r.now (r.sessions sessionId)⟩))

section

variable (env : Env)

/-- The EXPIRE of both. -/
def expireHash (sessionId : String) (r : Redis) : Except Exn Unit × Redis :=
  (.ok (), r.setSession sessionId
    (Timed.expire r.now env.settings.sessionResumeWindowSeconds (r.sessions sessionId)))

/-- The rest of the program from a stage on. -/
def prog : SessionStage → Prog Redis Exn Unit
  | create sessionId tenantId nodeId => do
    let _ ← Sessions.createSession env sessionId tenantId nodeId
    return ()
  | touch sessionId nodeId => Sessions.touchSession env sessionId nodeId
  | expiring sessionId => command (expireHash env sessionId)
  | ack sessionId channel st => st.prog env sessionId channel
  | done => .ret ()
  | failed e => .raise e

/-- The next command of a call. -/
def next (st : SessionStage) (r : Redis) : Redis × SessionStage :=
  match st with
  | create sessionId tenantId nodeId =>
    settle (fun _ => expiring sessionId) failed (attempt (hsetNew sessionId tenantId nodeId) r)
  | touch sessionId nodeId =>
    settle (fun _ => expiring sessionId) failed (attempt (hsetSeen sessionId nodeId) r)
  | expiring sessionId => settle (fun _ => done) failed (attempt (expireHash env sessionId) r)
  | ack sessionId channel st =>
    ((st.next env sessionId channel r).1, ack sessionId channel (st.next env sessionId channel r).2)
  | done => (r, done)
  | failed e => (r, failed e)

/-- After its HSET `create_session` has the EXPIRE left; the id it returns is dropped. -/
theorem prog_create (sessionId tenantId : String) (nodeId : NodeId) :
    prog env (create sessionId tenantId nodeId) =
      (Prog.atomic (attempt (hsetNew sessionId tenantId nodeId))).bind
        (fun _ => prog env (expiring sessionId)) := by
  simp only [prog, Sessions.createSession, Prog.bind_eq, Prog.pure_eq, Prog.bind_assoc,
    Prog.ret_bind]
  exact congrArg _ (funext (fun _ => Prog.bind_ret _))

theorem sound : Sound (prog env) (next env) := by
  intro st
  cases st with
  | create sessionId tenantId nodeId =>
    exact sound_atomic (fun _ => expiring sessionId) failed (prog_create env sessionId tenantId nodeId)
      (fun _ => rfl) (fun _ => rfl) (fun _ => rfl)
  | touch sessionId nodeId =>
    exact sound_atomic (fun _ => expiring sessionId) failed rfl (fun _ => rfl) (fun _ => rfl)
      (fun _ => rfl)
  | expiring sessionId =>
    refine sound_atomic (fun _ => done) failed (k := .ret) ?_ (fun _ => rfl) (fun _ => rfl)
      (fun _ => rfl)
    exact (Prog.bind_ret _).symm
  | ack sessionId channel st =>
    rcases AckStage.sound env sessionId channel st with ⟨f, k, hseg, hfk⟩ | ⟨hend, hstay⟩
    · exact Or.inl ⟨f, k, hseg, hfk⟩
    · refine Or.inr ⟨hend, fun r => ?_⟩
      simp only [next, hstay]
  | done => exact sound_ret rfl (fun _ => rfl)
  | failed e => exact sound_raise rfl (fun _ => rfl)

end

end SessionStage

/-! ## 2. Runs on a clock -/

/-- The next command of a call, or the passing of time. -/
inductive SessionAct
  | run (i : Nat)
  | tick (micros : Nat)
  deriving DecidableEq, Repr

namespace SessionAct

/-- One step. -/
def step (env : Env) (w : Tasks Redis SessionStage) : SessionAct → Tasks Redis SessionStage
  | run i => w.step (SessionStage.next env) i
  | tick d => { w with state := { w.state with now := w.state.now + d } }

/-- A step of a call is one of its program. -/
theorem toPool_run (env : Env) (w : Tasks Redis SessionStage) (i : Nat) :
    (step env w (run i)).toPool (SessionStage.prog env) =
      (w.toPool (SessionStage.prog env)).step i :=
  Tasks.toPool_step (SessionStage.sound env) w i

end SessionAct

/-- The session's hash is there. -/
def SessionAlive (sessionId : String) (r : Redis) : Prop :=
  (Timed.live r.now (r.sessions sessionId)).isSome

instance (sessionId : String) (r : Redis) : Decidable (SessionAlive sessionId r) :=
  inferInstanceAs (Decidable (_ = true))

/-- The call has recorded the number `n`: it has written it, or found a number as large. -/
def SessionStage.recorded (sessionId : String) (channel : Channel) (n : Int) : SessionStage → Bool
  | .ack s c (.wrote m) | .ack s c (.skipped m) =>
    decide (s = sessionId ∧ c = channel ∧ m = n)
  | _ => false

/-- The step completes a `record_ack` of `n`. -/
def Records (env : Env) (sessionId : String) (channel : Channel) (n : Int)
    (w : Tasks Redis SessionStage) : SessionAct → Prop
  | .run i => ∃ st ∈ w.stages[i]?, st.recorded sessionId channel n = false ∧
      (st.next env w.state).2.recorded sessionId channel n = true
  | .tick _ => False

instance (env : Env) (sessionId : String) (channel : Channel) (n : Int)
    (w : Tasks Redis SessionStage) (a : SessionAct) :
    Decidable (Records env sessionId channel n w a) := by
  cases a <;> unfold Records <;> infer_instance

/-- The step leaves the position of the session on the channel alone as it should: a SET writes no
smaller number over it, and time does not take it away before the session's hash. -/
def Spares (sessionId : String) (channel : Channel) (w : Tasks Redis SessionStage) :
    SessionAct → Prop
  | .run i => ∀ st ∈ w.stages[i]?, match st with
      | .ack s c (.writing m) =>
        s = sessionId → c = channel → position sessionId channel w.state ≤ m
      | _ => True
  | .tick d => SessionAlive sessionId { w.state with now := w.state.now + d } →
      storedAck sessionId channel { w.state with now := w.state.now + d } =
        storedAck sessionId channel w.state

instance (sessionId : String) (channel : Channel) (w : Tasks Redis SessionStage) (a : SessionAct) :
    Decidable (Spares sessionId channel w a) := by
  have : ∀ st : SessionStage, Decidable (match st with
      | .ack s c (.writing m) =>
        s = sessionId → c = channel → position sessionId channel w.state ≤ m
      | _ => True) := fun st => by split <;> infer_instance
  cases a <;> unfold Spares <;> infer_instance

/-! ## 3. What a step does to a position -/

section Position

variable {env : Env} {sessionId : String} {channel : Channel} {n : Int} {r : Redis}

/-- The commands of the session manager, on the positions: a SET of `record_ack`, or nothing. -/
theorem SessionStage.next_acks (env : Env) (st : SessionStage) (hup : r.faults = []) :
    (st.next env r).1.faults = [] ∧ (st.next env r).1.now = r.now ∧
      ((st.next env r).1.acks = r.acks ∨ ∃ s c m, st = .ack s c (.writing m) ∧
        st.next env r = ((AckStage.setAck env s c m r).2, .ack s c (.wrote m))) := by
  cases st with
  | create s t nodeId =>
    simp only [next, attempt_up _ hup, hsetNew, settle]
    exact ⟨hup, rfl, Or.inl rfl⟩
  | touch s nodeId =>
    simp only [next, attempt_up _ hup, hsetSeen, settle]
    exact ⟨hup, rfl, Or.inl rfl⟩
  | expiring s =>
    simp only [next, attempt_up _ hup, expireHash, settle]
    exact ⟨hup, rfl, Or.inl rfl⟩
  | ack s c st =>
    cases st with
    | asked m =>
      refine ⟨?_, ?_, Or.inl ?_⟩ <;> simp only [next, AckStage.next, hup, AckStage.fire]
    | writing m =>
      simp only [next, AckStage.next, hup, AckStage.fire]
      exact ⟨hup, rfl, Or.inr ⟨s, c, m, rfl, rfl⟩⟩
    | wrote m => exact ⟨hup, rfl, Or.inl rfl⟩
    | skipped m => exact ⟨hup, rfl, Or.inl rfl⟩
    | failed m => exact ⟨hup, rfl, Or.inl rfl⟩
  | done => exact ⟨hup, rfl, Or.inl rfl⟩
  | failed e => exact ⟨hup, rfl, Or.inl rfl⟩

theorem position_eq_of_acks {r' : Redis} (hnow : r'.now = r.now) (hacks : r'.acks = r.acks) :
    position sessionId channel r' = position sessionId channel r := by
  rw [position, position, storedAck, storedAck, hnow, hacks]

theorem position_setAck_of_ne {s : String} {c : Channel} (h : (sessionId, channel) ≠ (s, c)) (m : Int)
    (r : Redis) :
    position sessionId channel (AckStage.setAck env s c m r).2 = position sessionId channel r := by
  simp only [position, storedAck, AckStage.setAck, Redis.setAck, Function.update_of_ne h]

/-- **One step**: a position that is spared is not lowered while the session is alive. -/
theorem position_step (hwindow : 0 < env.settings.sessionResumeWindowSeconds)
    {w : Tasks Redis SessionStage} (a : SessionAct) (hup : w.state.faults = [])
    (hpos : n ≤ position sessionId channel w.state) (ha : Spares sessionId channel w a)
    (halive : SessionAlive sessionId (a.step env w).state) :
    (a.step env w).state.faults = [] ∧ n ≤ position sessionId channel (a.step env w).state := by
  cases a with
  | run i =>
    rcases Tasks.step_cases (SessionStage.next env) w i with ⟨_, heq⟩ | ⟨_, st, _, _, hget, heq⟩
    · rw [SessionAct.step, heq]
      exact ⟨hup, hpos⟩
    · rw [SessionAct.step, heq]
      obtain ⟨hup', hnow, hacks | ⟨s, c, m, rfl, hnext⟩⟩ := SessionStage.next_acks env st hup
      · exact ⟨hup', hpos.trans_eq (position_eq_of_acks hnow hacks).symm⟩
      · refine ⟨hup', ?_⟩
        rw [hnext]
        by_cases hkey : (sessionId, channel) = (s, c)
        · -- the SET is for this position, and writes no smaller number
          obtain ⟨rfl, rfl⟩ := Prod.mk.inj hkey
          have hle : position sessionId channel w.state ≤ m := ha _ hget rfl rfl
          rw [position_setAck sessionId channel hwindow]
          exact hpos.trans hle
        · rw [position_setAck_of_ne hkey]
          exact hpos
  | tick d =>
    refine ⟨hup, ?_⟩
    have hsame := ha halive
    rw [SessionAct.step, position, hsame]
    exact hpos

/-- A `record_ack` that completes leaves the position at its number or above. -/
theorem position_of_records (hwindow : 0 < env.settings.sessionResumeWindowSeconds)
    {w : Tasks Redis SessionStage} (a : SessionAct) (hup : w.state.faults = [])
    (ha : Records env sessionId channel n w a) :
    (a.step env w).state.faults = [] ∧ n ≤ position sessionId channel (a.step env w).state := by
  cases a with
  | tick d => exact ha.elim
  | run i =>
    obtain ⟨st, hst, hbefore, hafter⟩ := ha
    have hstep : (SessionAct.step env w (.run i)).state = (st.next env w.state).1 := by
      simp only [SessionAct.step, Tasks.step, Option.mem_def.mp hst]
    rw [hstep]
    obtain ⟨hup', -⟩ := SessionStage.next_acks env st hup
    refine ⟨hup', ?_⟩
    cases st with
    | ack s c st =>
      cases st with
      | asked m =>
        simp only [SessionStage.next, AckStage.next, hup, AckStage.fire] at hafter ⊢
        split at hafter
        · cases hafter
        · rename_i hall
          obtain ⟨rfl, rfl, rfl⟩ := of_decide_eq_true hafter
          -- the position read is as large
          unfold position
          cases hv : storedAck s c w.state with
          | none => simp [hv] at hall
          | some v => simpa [hv] using hall
      | writing m =>
        simp only [SessionStage.next, AckStage.next, hup, AckStage.fire] at hafter ⊢
        obtain ⟨rfl, rfl, rfl⟩ := of_decide_eq_true hafter
        rw [position_setAck _ _ hwindow]
      | wrote m => exact absurd hafter (by simpa [SessionStage.next, AckStage.next] using hbefore)
      | skipped m => exact absurd hafter (by simpa [SessionStage.next, AckStage.next] using hbefore)
      | failed m => cases hafter
    | create s t nodeId => simp [SessionStage.next, attempt_up _ hup, SessionStage.hsetNew, settle,
        SessionStage.recorded] at hafter
    | touch s nodeId => simp [SessionStage.next, attempt_up _ hup, SessionStage.hsetSeen, settle,
        SessionStage.recorded] at hafter
    | expiring s => simp [SessionStage.next, attempt_up _ hup, SessionStage.expireHash, settle,
        SessionStage.recorded] at hafter
    | done => cases hafter
    | failed e => cases hafter

/-- A whole run from the recording on. -/
theorem position_run (hwindow : 0 < env.settings.sessionResumeWindowSeconds) :
    ∀ (acts : List SessionAct) {w : Tasks Redis SessionStage}, w.state.faults = [] →
      n ≤ position sessionId channel w.state →
      Along (SessionAct.step env) (Spares sessionId channel) w acts →
      Along (SessionAct.step env) (fun w a => SessionAlive sessionId (a.step env w).state) w acts →
      (runAll (SessionAct.step env) w acts).state.faults = [] ∧
        n ≤ position sessionId channel (runAll (SessionAct.step env) w acts).state
  | [], _, hup, hpos, _, _ => ⟨hup, hpos⟩
  | a :: acts, _, hup, hpos, hspare, halive => by
    obtain ⟨hup', hpos'⟩ := position_step hwindow a hup hpos hspare.1 halive.1
    exact position_run hwindow acts hup' hpos' hspare.2 halive.2

end Position

theorem SessionAct.step_up {env : Env} {w : Tasks Redis SessionStage} (a : SessionAct)
    (hup : w.state.faults = []) : (a.step env w).state.faults = [] := by
  cases a with
  | run i =>
    rcases Tasks.step_cases (SessionStage.next env) w i with ⟨_, heq⟩ | ⟨_, st, _, _, _, heq⟩
    · rw [step, heq]
      exact hup
    · rw [step, heq]
      exact (SessionStage.next_acks env st hup).1
  | tick d => exact hup

/-! ## 4. A live session and its positions -/

/-- **When a live session keeps its positions.**  Any calls of `create_session`, `touch_session` and
`record_ack`, their commands interleaved in any way, on a clock.  A `record_ack` of `n` completes,
and from then on the session's hash exists without interruption.  If no `record_ack` executes its
SET while a larger number is stored, and the clock never takes the position away while the hash
stays, `get_ack` goes on returning `n` or more. -/
theorem session_keeps_position (env : Env)
    (hwindow : 0 < env.settings.sessionResumeWindowSeconds) (w : Tasks Redis SessionStage)
    (hup : w.state.faults = []) (sessionId : String) (channel : Channel) (n : Int)
    (before : List SessionAct) (a : SessionAct) (after : List SessionAct)
    (hrecords : Records env sessionId channel n (runAll (SessionAct.step env) w before) a)
    (halive : Along (SessionAct.step env) (fun w a => SessionAlive sessionId (a.step env w).state)
      (runAll (SessionAct.step env) w (before ++ [a])) after)
    (hspares : Along (SessionAct.step env) (Spares sessionId channel)
      (runAll (SessionAct.step env) w (before ++ [a])) after) :
    ∃ p, ((Sessions.getAck sessionId channel).run
        (runAll (SessionAct.step env) w (before ++ a :: after)).state).1 = .ok p ∧ n ≤ p := by
  have hbefore : (runAll (SessionAct.step env) w before).state.faults = [] :=
    @runAll_invariant' _ _ (SessionAct.step env) (fun w => w.state.faults = [])
      (fun _ a h => a.step_up h) before w hup
  obtain ⟨hup', hpos⟩ := position_of_records hwindow a hbefore hrecords
  have hsplit : ∀ acts, runAll (SessionAct.step env) w (before ++ a :: acts) =
      runAll (SessionAct.step env) (a.step env (runAll (SessionAct.step env) w before)) acts := by
    intro acts
    rw [runAll_append, runAll_cons]
  rw [hsplit] at halive hspares
  obtain ⟨hend, hle⟩ := position_run hwindow after hup' hpos hspares halive
  rw [hsplit, getAck_run sessionId channel hend]
  exact ⟨_, rfl, hle⟩

/-- A session, a position on one channel, and a heartbeat. -/
def quietSession : Tasks Redis SessionStage :=
  ⟨{}, [.create "s" "t" "node-1", .ack "s" "c" (.asked 5), .touch "s" "node-1"]⟩

/-- The session is created and 5 is acknowledged at once; a PONG comes after 299 seconds.  Two seconds
later the hash is there and has been all the time, and the position is gone. -/
theorem position_lapses_before_session :
    let acts : List SessionAct := [.run 0, .run 0, .run 1]
    let rest : List SessionAct := [.tick 299000000, .run 2, .run 2, .tick 2000000]
    let env : Env := .plain {}
    let w := runAll (SessionAct.step env) quietSession (acts ++ .run 1 :: rest)
    env.settings.sessionResumeWindowSeconds = 300 ∧
      Records env "s" "c" 5 (runAll (SessionAct.step env) quietSession acts) (.run 1) ∧
      Along (SessionAct.step env) (fun w a => SessionAlive "s" (a.step env w).state)
        (runAll (SessionAct.step env) quietSession (acts ++ [.run 1])) rest ∧
      ((Sessions.getAck "s" "c").run w.state).1 = .ok 0 := by
  decide +kernel

/-- Within the window the position is there. -/
theorem position_kept_within_window :
    let env : Env := .plain {}
    ∃ p, ((Sessions.getAck "s" "c").run (runAll (SessionAct.step env) quietSession
      ([.run 0, .run 0, .run 1] ++ .run 1 :: [.tick 299000000, .run 2, .run 2])).state).1 = .ok p ∧
      5 ≤ p :=
  session_keeps_position (.plain {}) (by decide) quietSession rfl "s" "c" 5 _ _ _
    (by decide +kernel) (by decide +kernel) (by decide +kernel)

end Relay
