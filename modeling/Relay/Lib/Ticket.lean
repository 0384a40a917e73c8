/-
# Numbers drawn from a counter

A counter hands out 1, 2, 3 and so on, and the numbers wander: they are held, stored, passed on or
dropped.  `Drawn top l` says of the numbers `l` that are somewhere that no two are equal and that
all of them came from a counter that now stands at `top`.
-/
import Mathlib

namespace Relay

/-- Distinct numbers from 1 to `top`. -/
structure Drawn (top : Int) (l : List Int) : Prop where
  nonneg : 0 ≤ top
  nodup : l.Nodup
  range : ∀ n ∈ l, 1 ≤ n ∧ n ≤ top

namespace Drawn

variable {top : Int} {l l' : List Int}

theorem nil : Drawn 0 [] := ⟨le_refl _, List.nodup_nil, by simp⟩

/-- Numbers move, or are dropped. -/
theorem subperm (h : Drawn top l) (hs : l'.Subperm l) : Drawn top l' := by
  obtain ⟨k, hperm, hsub⟩ := hs
  exact ⟨h.nonneg, hperm.nodup_iff.mp (h.nodup.sublist hsub),
    fun n hn => h.range n (hsub.subset (hperm.mem_iff.mpr hn))⟩

/-- The next number is drawn. -/
theorem draw (h : Drawn top l) (hp : l'.Perm ((top + 1) :: l)) : Drawn (top + 1) l' := by
  have hnonneg := h.nonneg
  refine ⟨by omega, hp.nodup_iff.mpr (List.nodup_cons.mpr ⟨fun hm => ?_, h.nodup⟩), fun n hn => ?_⟩
  · have := (h.range _ hm).2
    omega
  · rcases List.mem_cons.mp (hp.mem_iff.mp hn) with rfl | hn
    · omega
    · have := h.range n hn
      omega

end Drawn

end Relay
