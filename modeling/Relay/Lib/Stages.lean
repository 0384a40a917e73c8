/-
# Programs by stages

A program with straight-line code is easier to argue about by the point it has reached than by the
rest of its text.  A family of stages `S` describes programs if every stage stands for a program
(`prog`) and says what its next segment does (`next`): how it changes the shared state and which
stage it leads to.

`Sound prog next` is the one fact to prove of such a description.  It makes any number of staged
tasks over a shared state, scheduled in any way, the same as the pool of their programs
(`exec_pool`), so a result about stages is one about the programs.
-/
import Mathlib
import Relay.Lib.Prog
import Relay.Lib.Run

namespace Relay

namespace Stages

variable {σ ε α S : Type} (prog : S → Prog σ ε α) (next : S → σ → σ × S)

/-- The stages describe their programs: `next` is the program's next segment, and a program that
has ended stays where it is. -/
def Sound : Prop :=
  ∀ s, (∃ f k, prog s = .seg f k ∧ ∀ r, f r = (next s r).1 ∧ k r = prog (next s r).2) ∨
    (∀ f k, prog s ≠ .seg f k) ∧ ∀ r, next s r = (r, s)

/-- The stage a step that may fail leads to, with the state it leaves. -/
def settle {β : Type} (onOk : β → S) (onErr : ε → S) (res : Except ε β × σ) : σ × S :=
  (res.2, match res.1 with
    | .ok b => onOk b
    | .error e => onErr e)

section Rules

variable {prog next}

/-- A stage whose program starts with an atomic step. -/
theorem sound_atomic {s : S} {β : Type} {f : σ → Except ε β × σ} {k : β → Prog σ ε α}
    (onOk : β → S) (onErr : ε → S) (hprog : prog s = (Prog.atomic f).bind k)
    (hok : ∀ b, k b = prog (onOk b)) (herr : ∀ e, .raise e = prog (onErr e))
    (hnext : ∀ r, next s r = settle onOk onErr (f r)) :
    (∃ f k, prog s = .seg f k ∧ ∀ r, f r = (next s r).1 ∧ k r = prog (next s r).2) ∨
      (∀ f k, prog s ≠ .seg f k) ∧ ∀ r, next s r = (r, s) := by
  refine Or.inl ⟨fun r => (f r).2, fun r => (Prog.ofExcept (f r).1).bind k, hprog, fun r => ?_⟩
  rw [hnext]
  refine ⟨rfl, ?_⟩
  simp only [settle]
  cases (f r).1 with
  | ok b => exact hok b
  | error e => exact herr e

/-- A stage whose program starts with an atomic step whose exceptions it handles. -/
theorem sound_try {s : S} {β : Type} {f : σ → Except ε β × σ} {k : Except ε β → Prog σ ε α}
    (onOk : β → S) (onErr : ε → S) (hprog : prog s = (Prog.atomic f).try_.bind k)
    (hok : ∀ b, k (.ok b) = prog (onOk b)) (herr : ∀ e, k (.error e) = prog (onErr e))
    (hnext : ∀ r, next s r = settle onOk onErr (f r)) :
    (∃ f k, prog s = .seg f k ∧ ∀ r, f r = (next s r).1 ∧ k r = prog (next s r).2) ∨
      (∀ f k, prog s ≠ .seg f k) ∧ ∀ r, next s r = (r, s) := by
  refine Or.inl ⟨fun r => (f r).2, fun r => (Prog.ofExcept (f r).1).try_.bind k, hprog,
    fun r => ?_⟩
  rw [hnext]
  refine ⟨rfl, ?_⟩
  simp only [settle]
  cases (f r).1 with
  | ok b => exact hok b
  | error e => exact herr e

/-- A stage whose program has returned. -/
theorem sound_ret {s : S} {a : α} (hprog : prog s = .ret a) (hnext : ∀ r, next s r = (r, s)) :
    (∃ f k, prog s = .seg f k ∧ ∀ r, f r = (next s r).1 ∧ k r = prog (next s r).2) ∨
      (∀ f k, prog s ≠ .seg f k) ∧ ∀ r, next s r = (r, s) := by
  refine Or.inr ⟨fun f k h => ?_, hnext⟩
  rw [hprog] at h
  nomatch h

/-- A stage whose program has raised. -/
theorem sound_raise {s : S} {e : ε} (hprog : prog s = .raise e) (hnext : ∀ r, next s r = (r, s)) :
    (∃ f k, prog s = .seg f k ∧ ∀ r, f r = (next s r).1 ∧ k r = prog (next s r).2) ∨
      (∀ f k, prog s ≠ .seg f k) ∧ ∀ r, next s r = (r, s) := by
  refine Or.inr ⟨fun f k h => ?_, hnext⟩
  rw [hprog] at h
  nomatch h

end Rules

/-- A stage, or a task of which nothing but its program is known. -/
def besideProg : S ⊕ Prog σ ε α → Prog σ ε α
  | .inl s => prog s
  | .inr p => p

/-- Its next segment. -/
def besideNext : S ⊕ Prog σ ε α → σ → σ × (S ⊕ Prog σ ε α)
  | .inl s, r => ((next s r).1, .inl (next s r).2)
  | .inr (.seg f k), r => (f r, .inr (k r))
  | .inr p, r => (r, .inr p)

theorem sound_beside {prog : S → Prog σ ε α} {next : S → σ → σ × S} (h : Sound prog next) :
    Sound (besideProg prog) (besideNext next) := by
  intro s
  match s with
  | .inl s =>
    rcases h s with ⟨f, k, hseg, hfk⟩ | ⟨hend, hstay⟩
    · exact Or.inl ⟨f, k, hseg, hfk⟩
    · refine Or.inr ⟨hend, fun r => ?_⟩
      simp only [besideNext, hstay]
  | .inr (.seg f k) => exact Or.inl ⟨f, k, rfl, fun r => ⟨rfl, rfl⟩⟩
  | .inr (.ret a) => exact Or.inr ⟨(fun _ _ h => nomatch h), fun _ => rfl⟩
  | .inr (.raise e) => exact Or.inr ⟨(fun _ _ h => nomatch h), fun _ => rfl⟩

/-- A list around one of its elements. -/
theorem exists_around {α : Type} {l : List α} {i : Nat} {a : α} (hi : l[i]? = some a) :
    ∃ before after, l = before ++ a :: after ∧ (∀ b, l.set i b = before ++ b :: after) ∧
      l.eraseIdx i = before ++ after := by
  induction l generalizing i with
  | nil => nomatch hi
  | cons c rest ih =>
    cases i with
    | zero =>
      obtain rfl : c = a := Option.some.inj hi
      exact ⟨[], rest, rfl, fun _ => rfl, rfl⟩
    | succ i =>
      obtain ⟨before, after, hl, hset, herase⟩ := ih (i := i) hi
      exact ⟨c :: before, after, congrArg (c :: ·) hl, fun b => congrArg (c :: ·) (hset b),
        congrArg (c :: ·) herase⟩

/-- Counting around a task that moves. -/
theorem countP_around {α : Type} (p : α → Bool) (l l' : List α) (a : α) :
    (l ++ a :: l').countP p = l.countP p + l'.countP p + (p a).toNat := by
  rw [List.countP_append, List.countP_cons]
  cases p a <;> simp [Nat.add_assoc]

/-- Staged tasks over a shared state. -/
structure Tasks (σ S : Type) where
  state : σ
  stages : List S

namespace Tasks

/-- Let task `i` run one segment. -/
def step (t : Tasks σ S) (i : Nat) : Tasks σ S :=
  match t.stages[i]? with
  | some s => ⟨(next s t.state).1, t.stages.set i (next s t.state).2⟩
  | none => t

/-- The tasks as programs. -/
def toPool (t : Tasks σ S) : Pool σ ε α := ⟨t.state, t.stages.map prog⟩

variable {prog next}

theorem toPool_step (h : Sound prog next) (t : Tasks σ S) (i : Nat) :
    (t.step next i).toPool prog = (t.toPool prog).step i := by
  unfold step Pool.step
  cases hi : t.stages[i]? with
  | none => simp [toPool, hi]
  | some s =>
    have hp : (t.toPool prog).tasks[i]? = some (prog s) := by simp [toPool, hi]
    rw [hp]
    rcases h s with ⟨f, k, hseg, hfk⟩ | ⟨hend, hstay⟩
    · rw [hseg]
      simp only [toPool, List.map_set]
      rw [← (hfk t.state).1, ← (hfk t.state).2]
    · have hset : t.stages.set i s = t.stages := by
        obtain ⟨hlt, rfl⟩ := List.getElem?_eq_some_iff.mp hi
        exact List.set_getElem_self hlt
      simp only [hstay, hset]
      cases hps : prog s with
      | seg f k => exact absurd hps (hend f k)
      | ret a => rfl
      | raise e => rfl

/-- **Stages are the programs**, under every schedule. -/
theorem exec_pool (h : Sound prog next) : ∀ (sched : List Nat) (t : Tasks σ S),
    (t.toPool prog).exec sched = (runAll (step next) t sched).toPool prog
  | [], _ => rfl
  | i :: sched, t => by
    rw [Pool.exec_cons, runAll_cons, ← toPool_step h]
    exact exec_pool h sched (t.step next i)

/-- A condition on how the steps of a schedule move the shared state is the same for both. -/
theorem along_pool (h : Sound prog next) (moves : σ → σ → Prop) :
    ∀ {sched : List Nat} {t : Tasks σ S},
      Along Pool.step (fun p i => moves p.state (p.step i).state) (t.toPool prog) sched ↔
        Along (step next) (fun t i => moves t.state (t.step next i).state) t sched
  | [], _ => Iff.rfl
  | i :: sched, t => by
    simp only [along_cons, ← toPool_step h]
    exact and_congr_right (fun _ => along_pool h moves)

/-- What a scheduling step does: nothing, or the next segment of one task. -/
theorem step_cases (next : S → σ → σ × S) (t : Tasks σ S) (i : Nat) :
    t.stages[i]? = none ∧ t.step next i = t ∨ ∃ before s after, t.stages = before ++ s :: after ∧
      t.stages[i]? = some s ∧
      t.step next i = ⟨(next s t.state).1, before ++ (next s t.state).2 :: after⟩ := by
  unfold step
  cases hi : t.stages[i]? with
  | none => exact Or.inl ⟨rfl, rfl⟩
  | some s =>
    obtain ⟨before, after, hl, hset, -⟩ := exists_around hi
    exact Or.inr ⟨before, s, after, hl, rfl, by simp only [hset]⟩

/-! ## One staged task beside plain programs -/

/-- Plain programs, all of which move the state by `G`. -/
def Movers (G : σ → σ → Prop) (l : List (S ⊕ Prog σ ε α)) : Prop :=
  ∀ o ∈ l, ∃ q, o = .inr q ∧ q.Keeps (fun _ => True) G

theorem movers_map {G : σ → σ → Prop} {l : List (Prog σ ε α)}
    (h : ∀ q ∈ l, q.Keeps (fun _ => True) G) : Movers G (l.map (Sum.inr : _ → S ⊕ Prog σ ε α)) := by
  intro o ho
  obtain ⟨q, hq, rfl⟩ := List.mem_map.mp ho
  exact ⟨q, rfl, h q hq⟩

/-- A step is one of the staged task, or moves the state by `G` and leaves it where it is. -/
theorem step_beside {G : σ → σ → Prop} (hrefl : ∀ r, G r r) (next : S → σ → σ × S) (s : S) (r : σ)
    {rest : List (S ⊕ Prog σ ε α)} (h : Movers G rest) (i : Nat) :
    (i = 0 ∧ step (besideNext next) ⟨r, .inl s :: rest⟩ i
        = ⟨(next s r).1, .inl (next s r).2 :: rest⟩) ∨
      (i ≠ 0 ∧ ∃ r' rest', G r r' ∧ Movers G rest' ∧
        step (besideNext next) ⟨r, .inl s :: rest⟩ i = ⟨r', .inl s :: rest'⟩) := by
  cases i with
  | zero => exact Or.inl ⟨rfl, rfl⟩
  | succ i =>
    refine Or.inr ⟨Nat.succ_ne_zero i, ?_⟩
    simp only [step, List.getElem?_cons_succ, List.set_cons_succ]
    cases hi : rest[i]? with
    | none => exact ⟨r, rest, hrefl r, h, rfl⟩
    | some o =>
      obtain ⟨q, rfl, hq⟩ := h o (List.mem_of_getElem? hi)
      have hset : ∀ q' : Prog σ ε α, q'.Keeps (fun _ => True) G → Movers G (rest.set i (.inr q')) := by
        intro q' hq' o' ho'
        rcases List.mem_or_eq_of_mem_set ho' with ho' | rfl
        · exact h o' ho'
        · exact ⟨q', rfl, hq'⟩
      cases q with
      | seg f k => exact ⟨f r, _, (hq r trivial).2.1, hset _ (hq r trivial).2.2, rfl⟩
      | ret a => exact ⟨r, _, hrefl r, hset _ hq, rfl⟩
      | raise e => exact ⟨r, _, hrefl r, hset _ hq, rfl⟩

end Tasks

end Stages

end Relay
