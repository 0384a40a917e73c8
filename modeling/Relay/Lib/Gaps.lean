/-
# Reporting the gaps in a numbered stream

A watcher of a numbered stream keeps the largest number it has accepted.  A number more than one
above it shows a gap, which is reported as the number expected and the number received; a smaller
number, or one that was accepted before, shows nothing.  A reset makes it forget.

`watch` is one number.  `Tracks last past` says what the position is worth after the history `past`
since the last reset:

* nothing was accepted iff there is no position, and nothing accepted is above it;
* every number from the first one accepted up to the position was accepted or reported missing
  (`Tracks.cover`);
* no number that was reported missing had been accepted by then (`Tracks.sound`).

`Tracks.watch` keeps it whatever number comes next.
-/
import Mathlib

namespace Relay

/-- What happens at a watcher. -/
inductive Sighting
  | accept (n : Int)
  | gap (expected received : Int)
  | reset
  deriving DecidableEq, Repr

namespace Sighting

/-! ## 1. Histories -/

/-- The number accepted. -/
def number? : Sighting → Option Int
  | .accept n => some n
  | _ => none

/-- The numbers accepted, in order. -/
def accepted (past : List Sighting) : List Int := past.filterMap number?

/-- A gap that was reported holds `k`. -/
def Reported (past : List Sighting) (k : Int) : Prop :=
  ∃ expected received, .gap expected received ∈ past ∧ expected ≤ k ∧ k ≤ received - 1

/-- The history since the last reset. -/
def sinceReset (past : List Sighting) : List Sighting :=
  past.foldl (fun recent x => if x = .reset then [] else recent ++ [x]) []

theorem accepted_append (past more : List Sighting) :
    accepted (past ++ more) = accepted past ++ accepted more := List.filterMap_append

theorem Reported.append {past : List Sighting} {k : Int} (h : Reported past k)
    (more : List Sighting) : Reported (past ++ more) k := by
  obtain ⟨expected, received, hmem, hk⟩ := h
  exact ⟨expected, received, List.mem_append_left _ hmem, hk⟩

theorem sinceReset_reset (past : List Sighting) : sinceReset (past ++ [.reset]) = [] := by
  rw [sinceReset, List.foldl_append]
  rfl

theorem sinceReset_append (past : List Sighting) : ∀ {more : List Sighting}, .reset ∉ more →
    sinceReset (past ++ more) = sinceReset past ++ more := by
  intro more
  induction more generalizing past with
  | nil =>
    intro _
    rw [List.append_nil, List.append_nil]
  | cons x more ih =>
    intro hno
    have hx : x ≠ .reset := fun h => hno (h ▸ List.mem_cons_self)
    have hone : sinceReset (past ++ [x]) = sinceReset past ++ [x] := by
      rw [sinceReset, List.foldl_append, List.foldl_cons, List.foldl_nil, if_neg hx]
      rfl
    rw [List.append_cons, ih (past ++ [x]) (fun h => hno (List.mem_cons_of_mem _ h)), hone,
      ← List.append_cons]

/-! ## 2. The watcher -/

/-- The gap that a number shows. -/
def shown (last : Option Int) (n : Int) : List Sighting :=
  match last with
  | none => []
  | some previous => if previous + 1 < n then [.gap (previous + 1) n] else []

/-- The position after a number. -/
def watch (last : Option Int) (n : Int) : Option Int :=
  match last with
  | none => some n
  | some previous => some (max previous n)

/-- A number that was accepted does not lie in a gap reported after it. -/
def Before : Sighting → Sighting → Prop
  | .accept k, .gap expected received => ¬ (expected ≤ k ∧ k ≤ received - 1)
  | _, _ => True

/-- **What the position is worth** after the history since the last reset. -/
structure Tracks (last : Option Int) (past : List Sighting) : Prop where
  start : last = none ↔ accepted past = []
  bound : ∀ n, last = some n → ∀ k ∈ accepted past, k ≤ n
  cover : ∀ n first, last = some n → (accepted past).head? = some first →
    ∀ k, first ≤ k → k ≤ n → k ∈ accepted past ∨ Reported past k
  sound : past.Pairwise Before

theorem tracks_nil : Tracks none [] where
  start := by simp [accepted]
  bound := fun n h => nomatch h
  cover := fun n first h => nomatch h
  sound := List.Pairwise.nil

/-- No number of a reported gap had been accepted when it was reported. -/
theorem Tracks.not_accepted_before {last : Option Int} {before after : List Sighting}
    {expected received : Int} (h : Tracks last (before ++ .gap expected received :: after)) {k : Int}
    (hlow : expected ≤ k) (hhigh : k ≤ received - 1) : k ∉ accepted before := by
  intro hk
  obtain ⟨x, hx, hxk⟩ := List.mem_filterMap.mp hk
  have hbefore : Before x (.gap expected received) :=
    (List.pairwise_append.mp h.sound).2.2 x hx _ List.mem_cons_self
  cases x with
  | accept n =>
    rw [number?, Option.some.injEq] at hxk
    subst hxk
    exact hbefore ⟨hlow, hhigh⟩
  | gap _ _ => nomatch hxk
  | reset => nomatch hxk

/-! ## 3. One number -/

theorem accepted_shown (last : Option Int) (n : Int) :
    accepted (shown last n ++ [.accept n]) = [n] := by
  unfold shown
  split
  · rfl
  · split <;> rfl

theorem reset_not_mem_shown (last : Option Int) (n : Int) :
    .reset ∉ shown last n ++ [.accept n] := by
  unfold shown
  split
  · simp
  · split <;> simp

/-- The first number: nothing was accepted, so nothing is between. -/
theorem Tracks.watch_first {past : List Sighting} (h : Tracks none past) (n : Int) :
    Tracks (some n) (past ++ [.accept n]) := by
  have hnone : accepted past = [] := h.start.mp rfl
  have hall : accepted (past ++ [.accept n]) = [n] := by
    rw [accepted_append, hnone]
    rfl
  refine ⟨by simp [hall], ?_, ?_, ?_⟩
  · intro n' hn' k hk
    cases hn'
    rw [hall, List.mem_singleton] at hk
    exact le_of_eq hk
  · intro n' first hn' hfirst k hlow hhigh
    cases hn'
    rw [hall, List.head?_cons, Option.some.injEq] at hfirst
    rw [hall, List.mem_singleton]
    exact Or.inl (by omega)
  · rw [List.pairwise_append]
    refine ⟨h.sound, List.pairwise_singleton _ _, ?_⟩
    intro x _ y hy
    rw [List.mem_singleton.mp hy]
    cases x <;> trivial

/-- What is between the position and a number above it is the gap that the number shows. -/
theorem reported_shown {previous n k : Int} (hlow : previous < k) (hhigh : k < n) :
    Reported (shown (some previous) n) k := by
  have hgap : previous + 1 < n := by omega
  refine ⟨previous + 1, n, ?_, by omega, by omega⟩
  rw [shown, if_pos hgap]
  exact List.mem_singleton_self _

/-- A later number. -/
theorem Tracks.watch_next {past : List Sighting} {previous : Int} (h : Tracks (some previous) past)
    (n : Int) :
    Tracks (some (max previous n)) (past ++ (shown (some previous) n ++ [.accept n])) := by
  have hall : accepted (past ++ (shown (some previous) n ++ [.accept n])) = accepted past ++ [n] := by
    rw [accepted_append, accepted_shown]
  have hsome : accepted past ≠ [] := fun hnil => nomatch h.start.mpr hnil
  refine ⟨by simp [hall], ?_, ?_, ?_⟩
  · intro n' hn' k hk
    cases hn'
    rw [hall, List.mem_append, List.mem_singleton] at hk
    rcases hk with hk | rfl
    · exact le_max_of_le_left (h.bound previous rfl k hk)
    · exact le_max_right _ _
  · intro n' first hn' hfirst k hlow hhigh
    cases hn'
    rw [hall, List.head?_append_of_ne_nil _ hsome] at hfirst
    rw [hall, List.mem_append, List.mem_singleton]
    rcases le_or_gt k previous with hk | hk
    · rcases h.cover previous first rfl hfirst k hlow hk with hacc | hrep
      · exact Or.inl (Or.inl hacc)
      · exact Or.inr (hrep.append _)
    · rcases eq_or_ne k n with rfl | hne
      · exact Or.inl (Or.inr rfl)
      · -- above the old position and below the new one
        have hkn : k < n := by omega
        obtain ⟨expected, received, hmem, hbetween⟩ := reported_shown hk hkn
        exact Or.inr ⟨expected, received,
          List.mem_append_right _ (List.mem_append_left _ hmem), hbetween⟩
  · rw [List.pairwise_append]
    refine ⟨h.sound, ?_, ?_⟩
    · unfold shown
      simp only
      split
      · simp [Before]
      · simp
    · intro x hx y hy
      cases x with
      | gap _ _ => trivial
      | reset => trivial
      | accept k =>
        -- accepted numbers are not above the position, where the gap begins
        have hk : k ≤ previous := h.bound previous rfl k (List.mem_filterMap.mpr ⟨_, hx, rfl⟩)
        rcases List.mem_append.mp hy with hy | hy
        · unfold shown at hy
          simp only at hy
          split at hy
          · rw [List.mem_singleton.mp hy]
            show ¬ (previous + 1 ≤ k ∧ k ≤ n - 1)
            omega
          · exact absurd hy List.not_mem_nil
        · rw [List.mem_singleton.mp hy]
          trivial

/-- **Any number** may come next. -/
theorem Tracks.watch {last : Option Int} {past : List Sighting} (h : Tracks last past) (n : Int) :
    Tracks (watch last n) (past ++ (shown last n ++ [.accept n])) := by
  cases last with
  | none => exact h.watch_first n
  | some previous => exact h.watch_next n

end Sighting

end Relay
