/-
# Integers as JavaScript numbers

A JavaScript number is a double and keeps 53 significant bits of an integer.  `toNumber` is the
rounding, to the nearest integer that has a double and to the even one of two equally near.  Nothing
is lost up to `2 ^ 53` (`toNumber_eq`).  Integers from `2 ^ 1024` on, which become `Infinity`, are
left out.
-/
import Mathlib

namespace Relay

/-- An integer rounded to the precision of a double. -/
def toNumber (n : Int) : Int :=
  let ulp : Int := 2 ^ (n.natAbs.log2 - 52)
  let below := n / ulp
  if 2 * (n % ulp) < ulp ∨ 2 * (n % ulp) = ulp ∧ below % 2 = 0 then below * ulp
  else (below + 1) * ulp

/-- `Number.isSafeInteger`. -/
def IsSafe (n : Int) : Prop := n.natAbs < 2 ^ 53

instance (n : Int) : Decidable (IsSafe n) := inferInstanceAs (Decidable (_ < _))

/-- Integers up to `2 ^ 53` have a double. -/
theorem toNumber_eq {n : Int} (h : n.natAbs ≤ 2 ^ 53) : toNumber n = n := by
  -- the last place is worth one, or two at the very end
  have hulp : n % (2 : Int) ^ (n.natAbs.log2 - 52) = 0 := by
    rcases Nat.lt_or_eq_of_le h with hlt | heq
    · have hlog : n.natAbs.log2 ≤ 52 := by
        rcases Nat.eq_zero_or_pos n.natAbs with h0 | hpos
        · rw [h0]
          decide
        · exact Nat.le_of_lt_succ ((Nat.log2_lt hpos.ne').mpr hlt)
      rw [Nat.sub_eq_zero_of_le hlog, pow_zero, Int.emod_one]
    · rw [heq, Nat.log2_two_pow]
      omega
  have hpos : (0 : Int) < 2 ^ (n.natAbs.log2 - 52) := by positivity
  unfold toNumber
  simp only [hulp]
  rw [if_pos (Or.inl (by omega))]
  exact Int.ediv_mul_cancel (Int.dvd_of_emod_eq_zero hulp)

/-- The number after a safe integer. -/
theorem toNumber_succ {n : Int} (h : IsSafe n) : toNumber (n + 1) = n + 1 := by
  unfold IsSafe at h
  exact toNumber_eq (by omega)

end Relay
