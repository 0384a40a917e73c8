/-
# The acknowledged position of a session

`record_ack` (`sessions/manager.py`) is "only advance, never move backwards": it reads the stored
position and writes its own if that is larger.  The read and the write are two commands, and a
session may have several connections, on several nodes, that acknowledge at the same time.

A call that has read a small position writes whatever has been written in between, so the position
can move back.  It does exactly when a call writes after a call with a larger number has written
(`position_advances_iff`): the code is right for calls that do not overlap, and for overlapping
calls whose writes come in the order of their numbers.
-/
import Mathlib
import Relay.Redis
import Relay.Lib.Stages

namespace Relay

open Redis

/-! ## 1. The stages of `record_ack` -/

/-- How far a call of `record_ack` has come. -/
inductive AckStage
  /-- Before the GET. -/
  | asked (sequence : Int)
  /-- The position read was smaller: before the SET. -/
  | writing (sequence : Int)
  | wrote (sequence : Int)
  /-- The position read was as large: there is no SET. -/
  | skipped (sequence : Int)
  /-- A command failed. -/
  | failed (sequence : Int)
  deriving DecidableEq, Repr

/-- The stored position of a session on a channel, if there is one. -/
def storedAck (sessionId : String) (channel : Channel) (r : Redis) : Option Int :=
  Timed.live r.now (r.acks (sessionId, channel))

/-- What `get_ack` returns. -/
def position (sessionId : String) (channel : Channel) (r : Redis) : Int :=
  (storedAck sessionId channel r).getD 0

theorem getAck_run (sessionId : String) (channel : Channel) {r : Redis} (h : r.faults = []) :
    (Sessions.getAck sessionId channel).run r = (.ok (position sessionId channel r), r) := by
  simp [Sessions.getAck, command, Prog.run_bind, Prog.run_atomic, attempt, h, position, storedAck]

namespace AckStage

/-- The number the call acknowledges. -/
def sequence : AckStage → Int
  | asked n | writing n | wrote n | skipped n | failed n => n

section

variable (env : Env) (sessionId : String) (channel : Channel)

/-- The SET of `record_ack`. -/
def setAck (n : Int) (r : Redis) : Except Exn Unit × Redis :=
  (.ok (), r.setAck sessionId channel
    (Timed.lasting r.now env.settings.sessionResumeWindowSeconds n))

/-- The rest of the program from a stage on. -/
def prog : AckStage → Prog Redis Exn Unit
  | asked n => Sessions.recordAck env sessionId channel n
  | writing n => command (setAck env sessionId channel n)
  | wrote _ => .ret ()
  | skipped _ => .ret ()
  | failed _ => .raise .redis

/-- The next command of a call, when it does not fail. -/
def fire (r : Redis) : AckStage → Redis × AckStage
  | asked n => (r, if (storedAck sessionId channel r).all (fun k => decide (k < n)) then writing n
      else skipped n)
  | writing n => ((setAck env sessionId channel n r).2, wrote n)
  | st => (r, st)

/-- The next command of a call. -/
def next (st : AckStage) (r : Redis) : Redis × AckStage :=
  match st with
  | asked n | writing n =>
    match r.faults with
    | true :: rest => ({ r with faults := rest }, failed n)
    | false :: rest => fire env sessionId channel { r with faults := rest } st
    | [] => fire env sessionId channel r st
  | st => (r, st)

theorem sound : Stages.Sound (prog env sessionId channel) (next env sessionId channel) := by
  -- what follows the GET, by what it returned
  have hcont : ∀ (n : Int) (r : Redis),
      (if (storedAck sessionId channel r).all (fun k => decide (k < n)) then
        command (setAck env sessionId channel n) else .ret ()) =
      prog env sessionId channel (fire env sessionId channel r (asked n)).2 := by
    intro n r
    simp only [fire]
    split <;> rfl
  intro st
  cases st with
  | asked n =>
    refine Or.inl ⟨_, _, rfl, ?_⟩
    rintro ⟨now, _ | ⟨_ | _, fs⟩⟩
    · exact ⟨rfl, hcont n _⟩
    · exact ⟨rfl, hcont n _⟩
    · exact ⟨rfl, rfl⟩
  | writing n =>
    refine Or.inl ⟨_, _, rfl, ?_⟩
    rintro ⟨now, _ | ⟨_ | _, fs⟩⟩ <;> exact ⟨rfl, rfl⟩
  | wrote n => exact Or.inr ⟨(fun f k h => nomatch h), fun _ => rfl⟩
  | skipped n => exact Or.inr ⟨(fun f k h => nomatch h), fun _ => rfl⟩
  | failed n => exact Or.inr ⟨(fun f k h => nomatch h), fun _ => rfl⟩

end

end AckStage

/-! ## 2. Overtaking -/

open Stages

/-- The calls as programs, not begun, over a store. -/
def ackPool (env : Env) (sessionId : String) (channel : Channel) (r : Redis) (calls : List Int) :
    Pool Redis Exn Unit :=
  ⟨r, calls.map (Sessions.recordAck env sessionId channel)⟩

/-- The calls by stages. -/
def ackTasks (r : Redis) (calls : List Int) : Tasks Redis AckStage := ⟨r, calls.map .asked⟩

/-- A call that is about to write has not been overtaken: no call with a larger number has
written. -/
def NotOvertaken (t : Tasks Redis AckStage) (i : Nat) : Prop :=
  ∀ st ∈ t.stages[i]?, ∀ other ∈ t.stages,
    match st, other with
    | .writing n, .wrote m => m ≤ n
    | _, _ => True

instance (t : Tasks Redis AckStage) (i : Nat) : Decidable (NotOvertaken t i) := by
  unfold NotOvertaken
  have : ∀ st other : AckStage, Decidable (match st, other with
      | .writing n, .wrote m => m ≤ n
      | _, _ => True) := fun st other => by split <;> infer_instance
  infer_instance

/-- How a call stands to the position `pos` and to the one at the start. -/
def AckStage.Fits (start pos : Int) : AckStage → Prop
  | asked n => 1 ≤ n
  | writing n => start ≤ n
  | wrote n | skipped n => n ≤ pos
  | failed _ => False

theorem AckStage.Fits.mono {start pos pos' : Int} (hle : pos ≤ pos') :
    ∀ {st : AckStage}, st.Fits start pos → st.Fits start pos'
  | .asked _, h => h
  | .writing _, h => h
  | .wrote _, h => le_trans h hle
  | .skipped _, h => le_trans h hle

section Overtaking

variable {env : Env} {sessionId : String} {channel : Channel} {start : Int} {calls : List Int}

/-- While the position has only advanced: it is that of the start or a number that was written, and
every call fits it. -/
structure Advancing (sessionId : String) (channel : Channel) (start : Int) (calls : List Int)
    (t : Tasks Redis AckStage) : Prop where
  up : t.state.faults = []
  calls : t.stages.map AckStage.sequence = calls
  start_le : start ≤ position sessionId channel t.state
  source : position sessionId channel t.state = start ∨
    AckStage.wrote (position sessionId channel t.state) ∈ t.stages
  fits : ∀ st ∈ t.stages, st.Fits start (position sessionId channel t.state)

theorem position_setAck (sessionId : String) (channel : Channel)
    (hwindow : 0 < env.settings.sessionResumeWindowSeconds) (n : Int) (r : Redis) :
    position sessionId channel (AckStage.setAck env sessionId channel n r).2 = n := by
  simp [position, storedAck, AckStage.setAck, Redis.setAck, Timed.live_lasting hwindow]

/-- What a call knows after its GET. -/
theorem fits_read {r : Redis} (hs : start ≤ position sessionId channel r) {n : Int} (hn : 1 ≤ n) :
    (AckStage.fire env sessionId channel r (.asked n)).2.Fits start
      (position sessionId channel r) := by
  simp only [AckStage.fire]
  unfold position at hs ⊢
  split
  · rename_i hall
    show start ≤ n
    cases hv : storedAck sessionId channel r with
    | none => rw [hv, Option.getD_none] at hs; omega
    | some v => rw [hv] at hs hall; simp at hs hall; omega
  · rename_i hall
    cases hv : storedAck sessionId channel r with
    | none => rw [hv] at hall; simp at hall
    | some v => rw [hv] at hall; simpa [AckStage.Fits] using hall

theorem sequence_read (r : Redis) (n : Int) :
    (AckStage.fire env sessionId channel r (.asked n)).2.sequence = n := by
  simp only [AckStage.fire]
  split <;> rfl

/-- The GET of a call. -/
theorem Advancing.read {before after : List AckStage} {n : Int} {r : Redis}
    (h : Advancing sessionId channel start calls ⟨r, before ++ .asked n :: after⟩) :
    Advancing sessionId channel start calls
      ⟨r, before ++ (AckStage.fire env sessionId channel r (.asked n)).2 :: after⟩ := by
  have hfits := h.fits
  simp only [List.forall_mem_append, List.forall_mem_cons] at hfits
  refine ⟨h.up, ?_, h.start_le, ?_, ?_⟩
  · have hcalls := h.calls
    simp only [List.map_append, List.map_cons, sequence_read] at hcalls ⊢
    exact hcalls
  · refine h.source.imp id (fun hw => ?_)
    simp only [List.mem_append, List.mem_cons, reduceCtorEq, false_or] at hw ⊢
    tauto
  · simp only [List.forall_mem_append, List.forall_mem_cons]
    exact ⟨hfits.1, fits_read h.start_le hfits.2.1, hfits.2.2⟩

/-- The SET of a call that has not been overtaken. -/
theorem Advancing.write (hwindow : 0 < env.settings.sessionResumeWindowSeconds)
    {before after : List AckStage} {n : Int} {r : Redis}
    (h : Advancing sessionId channel start calls ⟨r, before ++ .writing n :: after⟩)
    (hle : position sessionId channel r ≤ n) :
    Advancing sessionId channel start calls
      ⟨(AckStage.setAck env sessionId channel n r).2, before ++ .wrote n :: after⟩ := by
  have hpos := position_setAck sessionId channel hwindow n r
  have hfits := h.fits
  simp only [List.forall_mem_append, List.forall_mem_cons] at hfits
  refine ⟨h.up, by simpa [AckStage.sequence] using h.calls, ?_, Or.inr ?_, ?_⟩
  · rw [hpos]
    exact hfits.2.1
  · rw [hpos]
    simp
  · rw [hpos]
    simp only [List.forall_mem_append, List.forall_mem_cons]
    exact ⟨fun st hst => (hfits.1 st hst).mono hle, le_refl n,
      fun st hst => (hfits.2.2 st hst).mono hle⟩

/-- The position is at most the number a call writes exactly if no larger number was written. -/
theorem Advancing.le_iff {t : Tasks Redis AckStage} (h : Advancing sessionId channel start calls t)
    {n : Int} (hn : .writing n ∈ t.stages) :
    position sessionId channel t.state ≤ n ↔ ∀ m, AckStage.wrote m ∈ t.stages → m ≤ n := by
  constructor
  · intro hle m hm
    exact le_trans (h.fits _ hm) hle
  · intro hall
    rcases h.source with hs | hs
    · rw [hs]
      exact h.fits _ hn
    · exact hall _ hs

theorem notOvertaken_writing {t : Tasks Redis AckStage} {i : Nat} {n : Int}
    (hi : t.stages[i]? = some (.writing n)) :
    NotOvertaken t i ↔ ∀ m, AckStage.wrote m ∈ t.stages → m ≤ n := by
  unfold NotOvertaken
  rw [hi]
  constructor
  · intro h m hm
    exact h _ rfl _ hm
  · intro h st hst other hother
    obtain rfl := Option.some.inj hst
    cases other with
    | wrote m => exact h m hother
    | _ => trivial

theorem notOvertaken_other {t : Tasks Redis AckStage} {i : Nat}
    (hi : ∀ n, t.stages[i]? ≠ some (.writing n)) : NotOvertaken t i := by
  intro st hst other _
  cases st with
  | writing n => exact absurd hst (hi n)
  | _ => trivial

/-- **One step.**  While the position has only advanced, a step moves it back exactly if it is the
write of a call that has been overtaken. -/
theorem advancing_step (hwindow : 0 < env.settings.sessionResumeWindowSeconds)
    {t : Tasks Redis AckStage} (h : Advancing sessionId channel start calls t) (i : Nat) :
    (position sessionId channel t.state ≤
        position sessionId channel (t.step (AckStage.next env sessionId channel) i).state ↔
      NotOvertaken t i) ∧
    (NotOvertaken t i →
      Advancing sessionId channel start calls (t.step (AckStage.next env sessionId channel) i)) := by
  obtain ⟨r, stages⟩ := t
  have hup : r.faults = [] := h.up
  rcases Tasks.step_cases (AckStage.next env sessionId channel) ⟨r, stages⟩ i with
    ⟨hi, heq⟩ | ⟨before, st, after, hst, hi, heq⟩
  · rw [heq]
    exact ⟨iff_of_true (le_refl _) (notOvertaken_other (by simp [hi])), fun _ => h⟩
  simp only at hst
  subst hst
  -- the store does not change unless the call writes
  have hsame : ∀ st', AckStage.next env sessionId channel st r = (r, st') →
      (∀ n, st ≠ .writing n) → Advancing sessionId channel start calls ⟨r, before ++ st' :: after⟩ →
      (position sessionId channel r ≤ position sessionId channel
          (Tasks.step (AckStage.next env sessionId channel) ⟨r, before ++ st :: after⟩ i).state ↔
        NotOvertaken ⟨r, before ++ st :: after⟩ i) ∧
      (NotOvertaken ⟨r, before ++ st :: after⟩ i → Advancing sessionId channel start calls
        (Tasks.step (AckStage.next env sessionId channel) ⟨r, before ++ st :: after⟩ i)) := by
    intro st' hnext hne hadv
    rw [heq, hnext]
    refine ⟨iff_of_true (le_refl _) (notOvertaken_other (fun n hn => ?_)), fun _ => hadv⟩
    exact hne n (Option.some.inj (hi.symm.trans hn))
  cases st with
  | asked n =>
    refine hsame (AckStage.fire env sessionId channel r (.asked n)).2 ?_ (by simp) h.read
    simp only [AckStage.next, hup, AckStage.fire]
  | writing n =>
    have hpos := position_setAck sessionId channel hwindow n r
    have hiff := h.le_iff (n := n) (by simp)
    rw [heq, notOvertaken_writing hi]
    simp only [AckStage.next, hup, AckStage.fire, hpos]
    exact ⟨hiff, fun hall => h.write hwindow (hiff.mpr hall)⟩
  | wrote n => exact hsame _ rfl (by simp) h
  | skipped n => exact hsame _ rfl (by simp) h
  | failed n => exact absurd (h.fits (.failed n) (by simp)) id

/-- A whole run. -/
theorem advancing_run (hwindow : 0 < env.settings.sessionResumeWindowSeconds) :
    ∀ (sched : List Nat) {t : Tasks Redis AckStage}, Advancing sessionId channel start calls t →
      (Along (Tasks.step (AckStage.next env sessionId channel)) (fun t i =>
          position sessionId channel t.state ≤
            position sessionId channel (t.step (AckStage.next env sessionId channel) i).state) t
          sched ↔
        Along (Tasks.step (AckStage.next env sessionId channel)) NotOvertaken t sched) ∧
      (Along (Tasks.step (AckStage.next env sessionId channel)) NotOvertaken t sched →
        Advancing sessionId channel start calls
          (runAll (Tasks.step (AckStage.next env sessionId channel)) t sched))
  | [], _, h => ⟨Iff.rfl, fun _ => h⟩
  | i :: sched, t, h => by
    obtain ⟨hiff, hadv⟩ := advancing_step hwindow h i
    simp only [along_cons, runAll_cons, hiff]
    refine ⟨and_congr_right (fun hn => (advancing_run hwindow sched (hadv hn)).1), fun hn => ?_⟩
    exact (advancing_run hwindow sched (hadv hn.1)).2 hn.2

/-! ## 3. The position after all calls -/

theorem foldr_max_le_iff (a b : Int) : ∀ l : List Int,
    l.foldr max a ≤ b ↔ a ≤ b ∧ ∀ n ∈ l, n ≤ b
  | [] => by simp
  | n :: l => by
    simp only [List.foldr_cons, max_le_iff, foldr_max_le_iff a b l, List.forall_mem_cons]
    tauto

theorem le_foldr_max (a : Int) (l : List Int) :
    a ≤ l.foldr max a ∧ ∀ n ∈ l, n ≤ l.foldr max a :=
  (foldr_max_le_iff a _ l).mp (le_refl _)

/-- When every call has returned, the position is the largest number of all. -/
theorem Advancing.final {t : Tasks Redis AckStage} (h : Advancing sessionId channel start calls t)
    (hret : ∀ q ∈ (t.toPool (AckStage.prog env sessionId channel)).tasks, q.returned = true) :
    position sessionId channel t.state = calls.foldr max start := by
  obtain ⟨hstart, hmax⟩ := le_foldr_max start calls
  refine le_antisymm ?_ ((foldr_max_le_iff _ _ _).mpr ⟨h.start_le, fun n hn => ?_⟩)
  · rcases h.source with hs | hs
    · rw [hs]
      exact hstart
    · exact hmax _ (h.calls ▸ List.mem_map.mpr ⟨_, hs, rfl⟩)
  · rw [← h.calls] at hn
    obtain ⟨st, hst, rfl⟩ := List.mem_map.mp hn
    have hfits := h.fits st hst
    have hq := hret _ (List.mem_map.mpr ⟨st, hst, rfl⟩)
    cases st with
    | asked n => exact absurd hq (by simp [AckStage.prog, Sessions.recordAck, command, Prog.atomic,
        Prog.returned])
    | writing n => exact absurd hq (by simp [AckStage.prog, command, Prog.atomic, Prog.returned])
    | wrote n => exact hfits
    | skipped n => exact hfits
    | failed n => exact absurd hfits id

end Overtaking

/-- **When the acknowledged position only moves forward.**  For every multiset of `record_ack`
calls of one session on one channel and every interleaving of their commands: the position never
decreases, and is the largest number acknowledged once all calls have returned, if and only if no
call executes its SET after a call with a larger number has executed its own. -/
theorem position_advances_iff (env : Env)
    (hwindow : 0 < env.settings.sessionResumeWindowSeconds) (sessionId : String) (channel : Channel)
    (r : Redis) (hup : r.faults = []) (calls : List Int) (hpos : ∀ n ∈ calls, 1 ≤ n)
    (sched : List Nat) :
    (Along Pool.step (fun p i => position sessionId channel p.state ≤
          position sessionId channel (p.step i).state) (ackPool env sessionId channel r calls) sched ∧
      ((∀ q ∈ ((ackPool env sessionId channel r calls).exec sched).tasks, q.returned = true) →
        position sessionId channel ((ackPool env sessionId channel r calls).exec sched).state
          = calls.foldr max (position sessionId channel r))) ↔
    Along (Tasks.step (AckStage.next env sessionId channel)) NotOvertaken (ackTasks r calls) sched := by
  have hsound := AckStage.sound env sessionId channel
  have hpool : ackPool env sessionId channel r calls =
      (ackTasks r calls).toPool (AckStage.prog env sessionId channel) := by
    simp only [ackPool, ackTasks, Tasks.toPool, List.map_map]
    rfl
  have hstart : Advancing sessionId channel (position sessionId channel r) calls
      (ackTasks r calls) := by
    refine ⟨hup, by simp [ackTasks, Function.comp_def, AckStage.sequence], le_refl _, Or.inl rfl,
      fun st hst => ?_⟩
    obtain ⟨n, hn, rfl⟩ := List.mem_map.mp hst
    exact hpos n hn
  obtain ⟨hiff, hadv⟩ := advancing_run hwindow sched hstart
  rw [hpool, Tasks.along_pool hsound (fun r r' =>
    position sessionId channel r ≤ position sessionId channel r'), hiff, Tasks.exec_pool hsound]
  refine ⟨And.left, fun h => ⟨h, fun hret => (hadv h).final hret⟩⟩

/-- Two connections acknowledge 10 and 5.  Both read that nothing is stored; 10 is written, and then
5 over it. -/
theorem smaller_ack_overwrites :
    position "s" "c" ((ackPool (.plain {}) "s" "c" {} [10, 5]).exec [0, 1, 0]).state = 10 ∧
      position "s" "c" ((ackPool (.plain {}) "s" "c" {} [10, 5]).exec [0, 1, 0, 1]).state = 5 ∧
      ∀ q ∈ ((ackPool (.plain {}) "s" "c" {} [10, 5]).exec [0, 1, 0, 1]).tasks,
        q.returned = true := by
  decide +kernel

/-- The same two calls overlap, and the writes come in the order of the numbers. -/
theorem overlapping_acks_in_order :
    position "s" "c" ((ackPool (.plain {}) "s" "c" {} [10, 5]).exec [0, 1, 1, 0]).state = 10 := by
  have h := (position_advances_iff (.plain {}) (by decide) "s" "c" {} rfl [10, 5] (by decide)
    [0, 1, 1, 0]).mpr (by decide +kernel)
  exact h.2 (by decide +kernel)

end Relay
