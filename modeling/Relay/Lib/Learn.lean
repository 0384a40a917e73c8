/-
# What a program has seen

Sometimes a program may do something only because of what it, or the system it is part of, has met
before: a value it has read, a record it has written itself.  Such a permission is not an invariant
of the state, since the state may have moved on.  It is knowledge, and knowledge is never lost.

`Prog.Learns see G Q p K` says this of a program that starts knowing `K`: every segment moves the
state by `G` of what is known at that moment, the state it starts from and the state it ends in are
added to what is known, and the result satisfies `Q` of what is known at the end.  More knowledge
never hurts (`Learns.mono`), so the program may be interleaved with others that teach it something.
-/
import Mathlib
import Relay.Lib.Prog

namespace Relay

namespace Prog

variable {σ τ ε α β κ : Type}

/-- The program moves by `G` of what is known, and ends with `Q`. -/
def Learns (see : σ → Set κ) (G : Set κ → σ → σ → Prop) (Q : Set κ → α → Prop) :
    Prog σ ε α → Set κ → Prop
  | ret a, K => Q K a
  | raise _, _ => True
  | seg f k, K => ∀ s, G (K ∪ see s) s (f s) ∧ (k s).Learns see G Q (K ∪ see s ∪ see (f s))

section Learns

variable {see : σ → Set κ} {G : Set κ → σ → σ → Prop} {Q : Set κ → α → Prop} {K K' : Set κ}

/-- More knowledge, and a weaker postcondition. -/
theorem Learns.mono {Q' : Set κ → α → Prop}
    (hG : ∀ {K K' : Set κ} {s s' : σ}, K ⊆ K' → G K s s' → G K' s s') :
    ∀ {p : Prog σ ε α} {K K' : Set κ}, p.Learns see G Q K → K ⊆ K' →
      (∀ J J' a, K ⊆ J → J ⊆ J' → Q J a → Q' J' a) → p.Learns see G Q' K' := by
  intro p
  induction p with
  | ret a => exact fun h hK hQ => hQ _ _ a (subset_refl _) hK h
  | raise e => exact fun _ _ _ => trivial
  | seg f k ih =>
    intro K K' h hK hQ s
    obtain ⟨h1, h2⟩ := h s
    have hs : K ∪ see s ⊆ K' ∪ see s := Set.union_subset_union_left _ hK
    refine ⟨hG hs h1, ih s h2 (Set.union_subset_union_left _ hs) (fun J J' a hJ hJ' => ?_)⟩
    exact hQ J J' a (fun _ he => hJ (Or.inl (Or.inl he))) hJ'

/-- What follows a program knows what the program has learned. -/
theorem Learns.bind {R : Set κ → β → Prop} {g : α → Prog σ ε β} :
    ∀ {x : Prog σ ε α} {K : Set κ}, x.Learns see G Q K →
      (∀ J a, K ⊆ J → Q J a → (g a).Learns see G R J) → (x.bind g).Learns see G R K := by
  intro x
  induction x with
  | ret a => exact fun h hg => hg _ a (subset_refl _) h
  | raise e => exact fun _ _ => trivial
  | seg f k ih =>
    intro K h hg s
    obtain ⟨h1, h2⟩ := h s
    refine ⟨h1, ih s h2 (fun J a hJ => ?_)⟩
    exact hg J a (fun _ he => hJ (Or.inl (Or.inl he)))

/-- A program whose segments need nothing but what is known from the start. -/
theorem Keeps.learns {H : σ → σ → Prop} (hH : ∀ J s s', K ⊆ J → H s s' → G J s s') :
    ∀ {p : Prog σ ε α} {J : Set κ}, p.Keeps (fun _ => True) H → K ⊆ J →
      p.Learns see G (fun J _ => K ⊆ J) J := by
  intro p
  induction p with
  | ret a => exact fun _ hJ => hJ
  | raise e => exact fun _ _ => trivial
  | seg f k ih =>
    intro J h hJ s
    obtain ⟨-, h2, h3⟩ := h s trivial
    have hs : K ⊆ J ∪ see s := fun _ he => Or.inl (hJ he)
    exact ⟨hH _ _ _ hs h2, ih s h3 (fun _ he => Or.inl (hs he))⟩

end Learns

end Prog

end Relay
