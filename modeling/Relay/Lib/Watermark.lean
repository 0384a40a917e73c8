/-
# Cumulative acknowledgements

Entries `(key, number)` wait in a list.  An acknowledgement `(key, number)` removes every entry of
its key up to its number.  What a list of acknowledgements removes is decided by its `marks`, the
highest number acknowledged under each key, with `⊥` for a key that was not acknowledged.

Marks form a join-semilattice with a bottom, pointwise, and `above` is an action of it on lists of
entries:

* `above_bot`, `above_above`: `⊥` removes nothing, and one removal after another is the removal
  under the join;
* `marks_append`: the marks of a concatenation are the join, so a run of acknowledgements is one
  removal (`foldl_above`);
* `marks_perm`, `marks_absorb`: marks do not depend on the order, nor on an acknowledgement at or
  below another one of its key.
-/
import Mathlib

namespace Relay

variable {ι β : Type} [LinearOrder β]

/-! ## 1. The action -/

/-- The entries that are above the marks, in their order. -/
def above (m : ι → WithBot β) (l : List (ι × β)) : List (ι × β) :=
  l.filter (fun e => !decide ((e.2 : WithBot β) ≤ m e.1))

theorem above_bot (l : List (ι × β)) : above ⊥ l = l := by
  unfold above
  rw [List.filter_eq_self]
  intro e _
  simp

/-- One removal after another is the removal under the join. -/
theorem above_above (m n : ι → WithBot β) (l : List (ι × β)) :
    above n (above m l) = above (m ⊔ n) l := by
  unfold above
  rw [List.filter_filter]
  refine List.filter_congr ?_
  intro e _
  -- a number is at or below a maximum iff it is at or below one of the two
  simp only [Pi.sup_apply, le_sup_iff, Bool.decide_or, Bool.not_or]
  exact Bool.and_comm _ _

theorem above_sublist (m : ι → WithBot β) (l : List (ι × β)) : (above m l).Sublist l :=
  List.filter_sublist

variable [DecidableEq ι]

/-- Entries of a key without a mark stay. -/
theorem filter_above_of_bot {m : ι → WithBot β} {i : ι} (h : m i = ⊥) (l : List (ι × β)) :
    (above m l).filter (fun e => e.1 = i) = l.filter (fun e => e.1 = i) := by
  unfold above
  rw [List.filter_filter]
  refine List.filter_congr ?_
  intro e _
  by_cases he : e.1 = i
  · simp [he, h]
  · simp [he]

/-! ## 2. Marks of a list of acknowledgements -/

/-- The highest number acknowledged under the key. -/
def marks (acks : List (ι × β)) (i : ι) : WithBot β :=
  ((acks.filter (fun a => a.1 = i)).map Prod.snd).maximum

theorem marks_nil : marks ([] : List (ι × β)) = ⊥ := rfl

theorem marks_cons (a : ι × β) (acks : List (ι × β)) (i : ι) :
    marks (a :: acks) i = if a.1 = i then max (a.2 : WithBot β) (marks acks i) else marks acks i := by
  unfold marks
  by_cases h : a.1 = i
  · rw [if_pos h, List.filter_cons_of_pos (by simpa using h), List.map_cons, List.maximum_cons]
  · rw [if_neg h, List.filter_cons_of_neg (by simpa using h)]

theorem marks_append (acks acks' : List (ι × β)) :
    marks (acks ++ acks') = marks acks ⊔ marks acks' := by
  funext i
  induction acks with
  | nil => rw [List.nil_append, marks_nil, bot_sup_eq]
  | cons a acks ih =>
    rw [List.cons_append, marks_cons, Pi.sup_apply, marks_cons, ih, Pi.sup_apply]
    split
    · exact (sup_assoc _ _ _).symm
    · rfl

/-- **A run of acknowledgements is one removal**, under the marks of the run. -/
theorem foldl_above (acks : List (ι × β)) (l : List (ι × β)) :
    acks.foldl (fun l a => above (marks [a]) l) l = above (marks acks) l := by
  induction acks generalizing l with
  | nil => rw [marks_nil, above_bot]; rfl
  | cons a acks ih =>
    rw [List.foldl_cons, ih, above_above, ← marks_append, List.singleton_append]

theorem marks_perm {acks acks' : List (ι × β)} (h : acks.Perm acks') :
    marks acks = marks acks' := by
  induction h with
  | nil => rfl
  | cons a _ ih =>
    funext i
    rw [marks_cons, marks_cons, ih]
  | swap a b acks =>
    have hswap : marks [b, a] = marks [a, b] := by
      have h1 := marks_append [b] [a]
      have h2 := marks_append [a] [b]
      exact h1.trans ((sup_comm _ _).trans h2.symm)
    have h1 := marks_append [b, a] acks
    have h2 := marks_append [a, b] acks
    exact h1.trans ((congrArg (· ⊔ marks acks) hswap).trans h2.symm)
  | trans _ _ ih1 ih2 => exact ih1.trans ih2

theorem le_marks {acks : List (ι × β)} {a : ι × β} (h : a ∈ acks) :
    (a.2 : WithBot β) ≤ marks acks a.1 :=
  List.le_maximum_of_mem' (List.mem_map_of_mem (List.mem_filter.mpr ⟨h, by simp⟩))

/-- An acknowledgement at or below another one of its key adds nothing. -/
theorem marks_absorb {acks : List (ι × β)} {a b : ι × β} (ha : a ∈ acks) (hkey : b.1 = a.1)
    (hle : b.2 ≤ a.2) : marks (b :: acks) = marks acks := by
  funext i
  rw [marks_cons]
  split
  · rename_i hi
    refine max_eq_right ?_
    calc (b.2 : WithBot β) ≤ (a.2 : WithBot β) := WithBot.coe_le_coe.mpr hle
      _ ≤ marks acks a.1 := le_marks ha
      _ = marks acks i := by rw [← hkey, hi]
  · rfl

theorem marks_of_not_mem {acks : List (ι × β)} {i : ι} (h : ∀ a ∈ acks, a.1 ≠ i) :
    marks acks i = ⊥ := by
  unfold marks
  rw [List.filter_eq_nil_iff.mpr (fun a ha => by simpa using h a ha)]
  rfl

end Relay
