/-
# A window over the last things accepted

Something is accepted iff it is not among the last `w` things accepted.  The window is the last `w`
elements of the history, `past.rtake w`; the history is `Spaced w` if each of its elements was
accepted under that rule.

* `rtake_concat`: the window can be kept on its own, each time with the new element at the end and
  the oldest one dropped.
* `Spaced.concat`: the rule keeps the history spaced.
* `Spaced.nodup`: in a spaced history the window holds nothing twice, so a set does as well as a
  list to look things up in it, and evicting what leaves the list evicts it from the set
  (`mem_drop_iff`).
* `Spaced.apart`: between two acceptances of one thing there are at least `w` acceptances of others.
-/
import Mathlib

namespace Relay

variable {α : Type} {w : Nat} {past : List α} {x : α}

/-! ## 1. The window on its own -/

/-- The window after `x`, from the window before it. -/
theorem rtake_concat (w : Nat) (past : List α) (x : α) :
    (past ++ [x]).rtake w = (past.rtake w ++ [x]).rtake w := by
  cases w with
  | zero => rw [List.rtake_zero, List.rtake_zero]
  | succ w =>
    rw [List.rtake_concat_succ, List.rtake_concat_succ]
    congr 1
    simp only [List.rtake, List.drop_drop, List.length_drop]
    congr 1
    omega

theorem length_rtake (w : Nat) (past : List α) : (past.rtake w).length = min w past.length := by
  rw [List.rtake, List.length_drop]
  omega

/-- A suffix that fits lies in the window. -/
theorem mem_rtake_of_mem_suffix {older newer : List α} (hlen : newer.length ≤ w) (hx : x ∈ newer) :
    x ∈ (older ++ newer).rtake w := by
  have hcut : (older ++ newer).length - w ≤ older.length := by
    rw [List.length_append]
    omega
  rw [List.rtake, List.drop_append_of_le_length hcut]
  exact List.mem_append_right _ hx

/-- In a list without repetitions, what is behind the cut is what is not before it. -/
theorem mem_drop_iff {order : List α} (hnd : order.Nodup) (n : Nat) :
    x ∈ order.drop n ↔ x ∈ order ∧ x ∉ order.take n := by
  have hsplit := List.take_append_drop n order
  rw [← hsplit, List.nodup_append'] at hnd
  constructor
  · intro hx
    exact ⟨List.mem_of_mem_drop hx, fun htake => hnd.2.2 htake hx⟩
  · rintro ⟨hx, hno⟩
    rw [← hsplit, List.mem_append] at hx
    exact hx.resolve_left hno

/-! ## 2. Spaced histories -/

/-- Nothing was accepted that was among the last `w` accepted before it. -/
def Spaced (w : Nat) (past : List α) : Prop :=
  ∀ before x after, past = before ++ x :: after → x ∉ before.rtake w

theorem spaced_nil (w : Nat) : Spaced w ([] : List α) := by
  intro before x after h
  exact absurd h.symm (List.append_ne_nil_of_right_ne_nil _ (List.cons_ne_nil _ _))

theorem Spaced.concat (h : Spaced w past) (hx : x ∉ past.rtake w) : Spaced w (past ++ [x]) := by
  intro before y after heq
  -- `y` is the new element or one of the old ones
  rcases List.eq_nil_or_concat after with rfl | ⟨rest, z, rfl⟩
  · obtain ⟨rfl, hxy⟩ := List.append_inj' heq rfl
    cases hxy
    exact hx
  · have heq' : past ++ [x] = (before ++ y :: rest) ++ [z] := by
      rw [heq, List.concat_eq_append, List.append_assoc, List.cons_append]
    exact h before y rest (List.append_inj' heq' rfl).1

theorem Spaced.init (h : Spaced w (past ++ [x])) : Spaced w past ∧ x ∉ past.rtake w := by
  refine ⟨?_, h past x [] rfl⟩
  intro before y after heq
  exact h before y (after ++ [x]) (by rw [heq, List.append_assoc, List.cons_append])

/-- The window holds nothing twice. -/
theorem Spaced.nodup (h : Spaced w past) : (past.rtake w).Nodup := by
  induction past using List.reverseRecOn with
  | nil =>
    rw [List.rtake_nil]
    exact List.nodup_nil
  | append_singleton past x ih =>
    obtain ⟨hpast, hx⟩ := h.init
    rw [rtake_concat]
    -- even before the eviction
    have hnd : (past.rtake w ++ [x]).Nodup := by
      rw [List.nodup_append']
      refine ⟨ih hpast, List.nodup_singleton x, ?_⟩
      intro y hy hyx
      rw [List.mem_singleton.mp hyx] at hy
      exact hx hy
    exact hnd.sublist (List.drop_sublist _ _)

/-- **Two acceptances of one thing are apart**: at least `w` acceptances of others are between. -/
theorem Spaced.apart [DecidableEq α] (h : Spaced w past) :
    ∀ before between after : List α, past = before ++ x :: between ++ x :: after →
      w ≤ (between.filter (· ≠ x)).length := by
  intro before between after heq
  -- by induction on the elements between: of several repetitions the nearest one counts
  induction hlen : between.length using Nat.strong_induction_on generalizing between after with
  | _ n ih =>
    by_cases hmem : x ∈ between
    · obtain ⟨near, far, rfl⟩ := List.append_of_mem hmem
      have hnear : w ≤ (near.filter (· ≠ x)).length := by
        refine ih near.length ?_ near (far ++ x :: after) ?_ rfl
        · rw [← hlen, List.length_append, List.length_cons]
          omega
        · rw [heq]
          simp only [List.append_assoc, List.cons_append]
      calc w ≤ (near.filter (· ≠ x)).length := hnear
        _ ≤ ((near ++ x :: far).filter (· ≠ x)).length := by
          rw [List.filter_append, List.length_append]
          exact Nat.le_add_right _ _
    · have hall : between.filter (· ≠ x) = between := by
        rw [List.filter_eq_self]
        intro y hy
        exact decide_eq_true fun hyx => hmem (hyx ▸ hy)
      rw [hall]
      by_contra hshort
      have hin : x ∈ (before ++ x :: between).rtake w :=
        mem_rtake_of_mem_suffix (by rw [List.length_cons]; omega) List.mem_cons_self
      exact h _ x after heq hin

end Relay
