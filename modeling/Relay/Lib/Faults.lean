/-
# Programs whose commands may fail

A command of a program talks to a service that is up or down.  The state has a list that says, for
each coming command, whether it fails, and a command takes one entry off the list.

`Spends faults e p n s Q` says all there is to say about `p` from `s` in terms of that list: `p` makes
`n` commands when none of them fails, and then returns with `Q`; and if one of the first `n` entries
is a failure, `p` raises `e`.  The rules add up the commands of the parts (`Spends.bind`), so the
condition under which a whole program survives is read off its text.
-/
import Mathlib
import Relay.Lib.Prog

namespace Relay

namespace Prog

variable {σ ε α β : Type}

/-- The program makes `n` commands from `s`, and raises `e` iff one of them fails. -/
structure Spends (faults : σ → List Bool) (e : ε) (p : Prog σ ε α) (n : Nat) (s : σ)
    (Q : α → σ → Prop) : Prop where
  up : true ∉ (faults s).take n →
    ∃ a s', p.run s = (.ok a, s') ∧ faults s' = (faults s).drop n ∧ Q a s'
  down : true ∈ (faults s).take n → (p.run s).1 = .error e

section Spends

variable {faults : σ → List Bool} {e : ε} {s : σ} {n m : Nat}

/-- A program that makes no command and returns. -/
theorem spends_of_run {p : Prog σ ε α} {Q : α → σ → Prop} {a : α} {s' : σ}
    (hrun : p.run s = (.ok a, s')) (hf : faults s' = faults s) (hQ : Q a s') :
    p.Spends faults e 0 s Q :=
  ⟨fun _ => ⟨a, s', hrun, hf, hQ⟩, fun h => absurd h (by simp)⟩

theorem spends_ret {a : α} {Q : α → σ → Prop} (hQ : Q a s) :
    (ret a : Prog σ ε α).Spends faults e 0 s Q :=
  spends_of_run rfl rfl hQ

theorem spends_modify {f : σ → σ} {Q : Unit → σ → Prop} (hf : faults (f s) = faults s)
    (hQ : Q () (f s)) : (modify f : Prog σ ε Unit).Spends faults e 0 s Q :=
  spends_of_run rfl hf hQ

/-- One command: it fails if the next entry says so, and takes the entry off either way. -/
theorem spends_one {p : Prog σ ε α} {Q : α → σ → Prop}
    (hdown : ∀ rest, faults s = true :: rest → (p.run s).1 = .error e)
    (hup : ∀ rest, faults s = false :: rest ∨ faults s = [] ∧ rest = [] →
      ∃ a s', p.run s = (.ok a, s') ∧ faults s' = rest ∧ Q a s') : p.Spends faults e 1 s Q := by
  cases hs : faults s with
  | nil =>
    refine ⟨fun _ => ?_, fun h => ?_⟩
    · rw [hs]
      exact hup [] (Or.inr ⟨hs, rfl⟩)
    · rw [hs] at h
      exact absurd h (by simp)
  | cons b rest =>
    cases b with
    | true =>
      refine ⟨fun h => ?_, fun _ => hdown rest hs⟩
      rw [hs] at h
      exact absurd h (by simp)
    | false =>
      refine ⟨fun _ => ?_, fun h => ?_⟩
      · rw [hs]
        exact hup rest (Or.inl hs)
      · rw [hs] at h
        exact absurd h (by simp)

/-- **The commands of two parts add up.** -/
theorem Spends.bind {p : Prog σ ε α} {k : α → Prog σ ε β} {P : α → σ → Prop} {Q : β → σ → Prop}
    (hp : p.Spends faults e n s P) (hk : ∀ a s', P a s' → (k a).Spends faults e m s' Q) :
    (p.bind k).Spends faults e (n + m) s Q := by
  have hsplit : (faults s).take (n + m) = (faults s).take n ++ ((faults s).drop n).take m :=
    List.take_add
  constructor
  · intro hno
    rw [hsplit, List.mem_append, not_or] at hno
    obtain ⟨a, s', hrun, hf, hP⟩ := hp.up hno.1
    have hrest : true ∉ (faults s').take m := by
      rw [hf]
      exact hno.2
    obtain ⟨b, s'', hrun', hf', hQ⟩ := (hk a s' hP).up hrest
    refine ⟨b, s'', ?_, ?_, hQ⟩
    · rw [run_bind_ok hrun, hrun']
    · rw [hf', hf, List.drop_drop]
  · intro hmem
    by_cases hfirst : true ∈ (faults s).take n
    · -- the first part is stopped
      have herr := hp.down hfirst
      have hrun : p.run s = (.error e, (p.run s).2) := Prod.ext herr rfl
      rw [run_bind_error hrun]
    · obtain ⟨a, s', hrun, hf, hP⟩ := hp.up hfirst
      rw [hsplit, List.mem_append] at hmem
      have hrest : true ∈ (faults s').take m := by
        rw [hf]
        exact hmem.resolve_left hfirst
      rw [run_bind_ok hrun]
      exact (hk a s' hP).down hrest

/-- The first part makes no command. -/
theorem Spends.bind_free {p : Prog σ ε α} {k : α → Prog σ ε β} {P : α → σ → Prop}
    {Q : β → σ → Prop} (hp : p.Spends faults e 0 s P)
    (hk : ∀ a s', P a s' → (k a).Spends faults e n s' Q) : (p.bind k).Spends faults e n s Q := by
  have h := hp.bind hk
  rwa [Nat.zero_add] at h

/-- The second part makes no command. -/
theorem Spends.bind_last {p : Prog σ ε α} {k : α → Prog σ ε β} {P : α → σ → Prop}
    {Q : β → σ → Prop} (hp : p.Spends faults e n s P)
    (hk : ∀ a s', P a s' → (k a).Spends faults e 0 s' Q) : (p.bind k).Spends faults e n s Q :=
  hp.bind hk

end Spends

end Prog

end Relay
