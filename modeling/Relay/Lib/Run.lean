/-
# Runs of a step function

A system is a state and a function that applies one action; an action that is not enabled leaves
the state alone.  A run is a list of actions, so "in every reachable state" is "for every list",
and the induction over runs is done once, here.

`Along ok s as` says that every action of the run `as` from `s` is taken in a state where `ok`
allows it.  It is how an assumption on the environment, or the condition under which a property
holds, is attached to the steps of a run.
-/
import Mathlib

namespace Relay

section Run

variable {σ A : Type} (step : σ → A → σ)

/-- The state after a run. -/
def runAll (s : σ) (as : List A) : σ := as.foldl step s

@[simp] theorem runAll_nil (s : σ) : runAll step s [] = s := rfl

@[simp] theorem runAll_cons (s : σ) (a : A) (as : List A) :
    runAll step s (a :: as) = runAll step (step s a) as := rfl

theorem runAll_append (s : σ) (as bs : List A) :
    runAll step s (as ++ bs) = runAll step (runAll step s as) bs := by
  simp [runAll, List.foldl_append]

/-- Every step of the run is taken where `ok` allows it. -/
def Along (ok : σ → A → Prop) : σ → List A → Prop
  | _, [] => True
  | s, a :: as => ok s a ∧ Along ok (step s a) as

@[simp] theorem along_nil (ok : σ → A → Prop) (s : σ) : Along step ok s [] := trivial

@[simp] theorem along_cons (ok : σ → A → Prop) (s : σ) (a : A) (as : List A) :
    Along step ok s (a :: as) ↔ ok s a ∧ Along step ok (step s a) as := Iff.rfl

instance (ok : σ → A → Prop) [∀ s a, Decidable (ok s a)] :
    ∀ (s : σ) (as : List A), Decidable (Along step ok s as)
  | _, [] => isTrue trivial
  | s, a :: as =>
    haveI := instDecidableAlong ok (step s a) as
    inferInstanceAs (Decidable (_ ∧ _))

variable {step}

theorem along_append {ok : σ → A → Prop} : ∀ {s : σ} {as bs : List A},
    Along step ok s (as ++ bs) ↔ Along step ok s as ∧ Along step ok (runAll step s as) bs
  | _, [], _ => by simp
  | s, a :: as, bs => by
    simp only [List.cons_append, along_cons, runAll_cons, along_append, and_assoc]

/-- A condition on the actions alone. -/
theorem along_of_forall {P : A → Prop} : ∀ {s : σ} (as : List A), (∀ a ∈ as, P a) →
    Along step (fun _ a => P a) s as
  | _, [], _ => trivial
  | _, a :: as, h => ⟨h a List.mem_cons_self,
      along_of_forall as (fun b hb => h b (List.mem_cons_of_mem _ hb))⟩

theorem Along.mono {ok ok' : σ → A → Prop} (h : ∀ s a, ok s a → ok' s a) :
    ∀ {s : σ} {as : List A}, Along step ok s as → Along step ok' s as
  | _, [], _ => trivial
  | _, _ :: _, hs => ⟨h _ _ hs.1, Along.mono h hs.2⟩

theorem Along.and {ok ok' : σ → A → Prop} : ∀ {s : σ} {as : List A}, Along step ok s as →
    Along step ok' s as → Along step (fun s a => ok s a ∧ ok' s a) s as
  | _, [], _, _ => trivial
  | _, _ :: _, h, h' => ⟨⟨h.1, h'.1⟩, Along.and h.2 h'.2⟩

/-- A run keeps to its condition, or there is a step that does not. -/
theorem along_or_exists (ok : σ → A → Prop) : ∀ (s : σ) (as : List A), Along step ok s as ∨
    ∃ before a after, as = before ++ a :: after ∧ ¬ ok (runAll step s before) a
  | _, [] => Or.inl trivial
  | s, a :: as => by
    by_cases hok : ok s a
    · rcases along_or_exists ok (step s a) as with h | ⟨before, b, after, rfl, hb⟩
      · exact Or.inl ⟨hok, h⟩
      · exact Or.inr ⟨a :: before, b, after, rfl, hb⟩
    · exact Or.inr ⟨[], a, as, rfl, hok⟩

/-- **The invariant rule.**  What the start satisfies and every allowed step keeps holds after
every allowed run. -/
theorem runAll_invariant {ok : σ → A → Prop} {Inv : σ → Prop}
    (hstep : ∀ s a, Inv s → ok s a → Inv (step s a)) :
    ∀ (as : List A) (s : σ), Inv s → Along step ok s as → Inv (runAll step s as)
  | [], _, hs, _ => hs
  | a :: as, s, hs, hok => runAll_invariant hstep as (step s a) (hstep s a hs hok.1) hok.2

/-- The same without a condition on the steps. -/
theorem runAll_invariant' {Inv : σ → Prop} (hstep : ∀ s a, Inv s → Inv (step s a)) :
    ∀ (as : List A) (s : σ), Inv s → Inv (runAll step s as)
  | [], _, hs => hs
  | a :: as, s, hs => runAll_invariant' hstep as (step s a) (hstep s a hs)

/-- Two conditions that say the same of every step, from states that the steps meeting them lead to,
say the same of every run. -/
theorem along_congr {ok ok' : σ → A → Prop} {Inv : σ → Prop}
    (hiff : ∀ s a, Inv s → (ok s a ↔ ok' s a))
    (hkeep : ∀ s a, Inv s → ok s a → Inv (step s a)) :
    ∀ (as : List A) (s : σ), Inv s → (Along step ok s as ↔ Along step ok' s as)
  | [], _, _ => Iff.rfl
  | a :: as, s, hs => by
    constructor
    · rintro ⟨hok, hrest⟩
      exact ⟨(hiff s a hs).mp hok, (along_congr hiff hkeep as _ (hkeep s a hs hok)).mp hrest⟩
    · rintro ⟨hok', hrest⟩
      have hok := (hiff s a hs).mpr hok'
      exact ⟨hok, (along_congr hiff hkeep as _ (hkeep s a hs hok)).mpr hrest⟩

/-- A run that keeps to its condition keeps the invariant; from the first step that does not, it
is in `Bad` for good. -/
theorem runAll_along_or {ok : σ → A → Prop} {Inv Bad : σ → Prop}
    (hstep : ∀ s a, Inv s → ok s a → Inv (step s a))
    (hbreak : ∀ s a, Inv s → ¬ ok s a → Bad (step s a))
    (hbad : ∀ s a, Bad s → Bad (step s a)) :
    ∀ (as : List A) (s : σ), Inv s → (Along step ok s as ∧ Inv (runAll step s as)) ∨
      (¬ Along step ok s as ∧ Bad (runAll step s as))
  | [], _, hs => Or.inl ⟨trivial, hs⟩
  | a :: as, s, hs => by
    by_cases hok : ok s a
    · rcases runAll_along_or hstep hbreak hbad as (step s a) (hstep s a hs hok) with h | h
      · exact Or.inl ⟨⟨hok, h.1⟩, h.2⟩
      · exact Or.inr ⟨fun hall => h.1 hall.2, h.2⟩
    · exact Or.inr ⟨fun hall => hok hall.1,
        runAll_invariant' hbad as (step s a) (hbreak s a hs hok)⟩

/-! ## What a run emits -/

/-- The events of a run, when a step from a state emits some. -/
def emitted {E : Type} (step : σ → A → σ) (out : σ → A → List E) : σ → List A → List E
  | _, [] => []
  | s, a :: as => out s a ++ emitted step out (step s a) as

@[simp] theorem emitted_nil {E : Type} (out : σ → A → List E) (s : σ) :
    emitted step out s [] = [] := rfl

@[simp] theorem emitted_cons {E : Type} (out : σ → A → List E) (s : σ) (a : A) (as : List A) :
    emitted step out s (a :: as) = out s a ++ emitted step out (step s a) as := rfl

theorem emitted_append {E : Type} (out : σ → A → List E) : ∀ (s : σ) (as bs : List A),
    emitted step out s (as ++ bs) =
      emitted step out s as ++ emitted step out (runAll step s as) bs
  | _, [], _ => rfl
  | s, a :: as, bs => by
    simp only [List.cons_append, emitted_cons, runAll_cons, List.append_assoc,
      emitted_append out (step s a) as bs]

/-- An invariant between the state and everything emitted so far. -/
theorem emitted_history {E : Type} {out : σ → A → List E} {Inv : σ → List E → Prop}
    (hstep : ∀ s a past, Inv s past → Inv (step s a) (past ++ out s a)) :
    ∀ (as : List A) (s : σ) (past : List E), Inv s past →
      Inv (runAll step s as) (past ++ emitted step out s as)
  | [], s, past, h => by
    rw [emitted_nil, List.append_nil]
    exact h
  | a :: as, s, past, h => by
    rw [emitted_cons, ← List.append_assoc]
    exact emitted_history hstep as (step s a) _ (hstep s a past h)

/-- The moment of an event. -/
theorem exists_of_mem_emitted {E : Type} {out : σ → A → List E} {e : E} :
    ∀ {s : σ} {as : List A}, e ∈ emitted step out s as →
      ∃ before a after, as = before ++ a :: after ∧ e ∈ out (runAll step s before) a
  | _, [], he => absurd he List.not_mem_nil
  | s, a :: as, he => by
    rcases List.mem_append.mp he with he | he
    · exact ⟨[], a, as, rfl, he⟩
    · obtain ⟨before, b, after, rfl, hb⟩ := exists_of_mem_emitted he
      exact ⟨a :: before, b, after, rfl, hb⟩

/-- From a state with `Q` on, which allowed steps keep, only events with `P`. -/
theorem emitted_invariant {E : Type} {out : σ → A → List E} {ok : σ → A → Prop} {Q : σ → Prop}
    {P : E → Prop} (hkeep : ∀ s a, Q s → ok s a → Q (step s a))
    (hout : ∀ s a, Q s → ok s a → ∀ e ∈ out s a, P e) :
    ∀ (as : List A) (s : σ), Q s → Along step ok s as → ∀ e ∈ emitted step out s as, P e
  | [], _, _, _, _, he => absurd he List.not_mem_nil
  | a :: as, s, hq, hok, e, he => by
    rcases List.mem_append.mp he with he | he
    · exact hout s a hq hok.1 e he
    · exact emitted_invariant hkeep hout as (step s a) (hkeep s a hq hok.1) hok.2 e he

end Run

/-! ## Loops over a set -/

/-- A loop whose body for `y` applies `f` to the part of `y` and to nothing else: after it, `f` has
been applied once to the part of everything it went through. -/
theorem foldl_pointwise {σ ι β : Type} [DecidableEq ι] {step : σ → ι → σ} (part : σ → ι → β)
    {f : β → β} (hstep : ∀ s y x, part (step s y) x = if x = y then f (part s x) else part s x)
    (x : ι) : ∀ (l : List ι) (s : σ), l.Nodup →
      part (l.foldl step s) x = if x ∈ l then f (part s x) else part s x
  | [], s, _ => by simp
  | y :: l, s, hnd => by
    obtain ⟨hy, hnd⟩ := List.nodup_cons.mp hnd
    rw [List.foldl_cons, foldl_pointwise part hstep x l _ hnd, hstep]
    rcases eq_or_ne x y with rfl | hne
    · simp [hy]
    · simp [hne]

/-! ## Labels of a list of tasks -/

section Labels

variable {L T : Type} {R : L → T → Prop}

/-- A task has its label at the same place. -/
theorem forall₂_label : ∀ {ls : List L} {ts : List T} {i : Nat} {t : T}, List.Forall₂ R ls ts →
    ts[i]? = some t → ∃ l, ls[i]? = some l ∧ R l t
  | _, _, 0, _, .cons h _, ht => ⟨_, rfl, Option.some.inj ht ▸ h⟩
  | _, _, i + 1, _, .cons _ hs, ht => forall₂_label (i := i) hs ht
  | _, _, _, _, .nil, ht => nomatch ht

/-- A task moves on under its label. -/
theorem forall₂_set {l : L} {t : T} (h : R l t) : ∀ {ls : List L} {ts : List T} {i : Nat},
    List.Forall₂ R ls ts → ls[i]? = some l → List.Forall₂ R ls (ts.set i t)
  | _, _, 0, .cons _ hs, hl => .cons (Option.some.inj hl ▸ h) hs
  | _, _, i + 1, .cons h' hs, hl => .cons h' (forall₂_set h (i := i) hs hl)
  | _, _, _, .nil, hl => nomatch hl

end Labels

end Relay
