/-
# Words that begin a code

A text that starts with one of several fixed words, and goes on with anything, is read back without
ambiguity if no word begins another.

* `PrefixFree.append_inj`: the word and the rest are determined by the whole text.
-/
import Mathlib.Data.List.Infix

namespace Relay

/-- No word of the code begins another. -/
def PrefixFree {ι α : Type} (code : ι → List α) : Prop :=
  ∀ i j, code i <+: code j → i = j

section PrefixFree

variable {ι α : Type} {code : ι → List α}

/-- **A word of the code can be told from what follows it.** -/
theorem PrefixFree.append_inj (h : PrefixFree code) {i j : ι} {x y : List α}
    (e : code i ++ x = code j ++ y) : i = j ∧ x = y := by
  have hi : code i <+: code j ++ y := ⟨x, e⟩
  have hj : code j <+: code j ++ y := ⟨y, rfl⟩
  -- two words that begin one text: the shorter begins the longer
  have hij : i = j := by
    rcases List.prefix_or_prefix_of_prefix hi hj with h1 | h1
    · exact h i j h1
    · exact (h j i h1).symm
  subst hij
  exact ⟨rfl, List.append_cancel_left e⟩

end PrefixFree

end Relay
