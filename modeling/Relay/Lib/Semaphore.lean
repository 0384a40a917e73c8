/-
# `asyncio.Semaphore`

A semaphore is a number of free permits and the futures of the tasks suspended in `acquire()`, in
the order of their calls.  `release()` hands a permit to the first future that is not resolved, and
so the resolved ones are always in front: `woken` and `asleep` are the two parts of the queue.  A
task that finds anybody in the queue joins it, even if a permit is free.  It may then sleep while a
permit is free, but only behind a woken task, which passes the permit on when it runs.  This is the
field `alert`.

`Crowd` are the tasks around a semaphore: those that have called `acquire()`, in order, and those
that hold a permit.  Whatever they do, no permit is lost or made up, tasks are let in first come,
first served, and the crowd is never stuck in front of a free permit (`Crowd.Orderly`).
-/
import Mathlib

namespace Relay

/-- An `asyncio.Semaphore`. -/
structure Semaphore (τ : Type) where
  value : Nat
  /-- In `acquire()`, with a permit. -/
  woken : List τ
  /-- In `acquire()`, without one. -/
  asleep : List τ
  alert : 0 < value → asleep ≠ [] → woken ≠ []

namespace Semaphore

variable {τ : Type}

/-- A new semaphore. -/
def new (value : Nat) : Semaphore τ := ⟨value, [], [], fun _ h => absurd rfl h⟩

/-- `locked()`. -/
def locked (s : Semaphore τ) : Bool := s.value == 0 || !(s.woken ++ s.asleep).isEmpty

theorem locked_iff {s : Semaphore τ} :
    s.locked = true ↔ s.value = 0 ∨ s.woken ≠ [] ∨ s.asleep ≠ [] := by
  rw [locked, Bool.or_eq_true, Bool.not_eq_true', ← Bool.not_eq_true, List.isEmpty_iff,
    List.append_eq_nil_iff, beq_iff_eq]
  tauto

/-- `acquire()` up to its await: the semaphore, and whether the task is suspended. -/
def acquire (t : τ) (s : Semaphore τ) : Semaphore τ × Bool :=
  if h : s.locked = true then
    ({ s with
      asleep := s.asleep ++ [t]
      -- with a free permit it is the queue that locks
      alert := fun hv _ hw => (locked_iff.mp h).elim (Nat.pos_iff_ne_zero.mp hv)
        (fun hq => hq.elim (fun hwoken => hwoken hw) (fun hasleep => s.alert hv hasleep hw)) },
      true)
  else
    ({ s with
      value := s.value - 1
      alert := fun _ hasleep => absurd (locked_iff.mpr (Or.inr (Or.inr hasleep))) h }, false)

/-- `_wake_up_next()` of a semaphore with this value and this queue. -/
def wakeUpNext (value : Nat) (woken : List τ) : List τ → Semaphore τ
  | [] => ⟨value, woken, [], fun _ h => absurd rfl h⟩
  | t :: rest => ⟨value - 1, woken ++ [t], rest, fun _ _ => List.append_ne_nil_of_right_ne_nil _
      (List.cons_ne_nil _ _)⟩

/-- `release()`. -/
def release (s : Semaphore τ) : Semaphore τ := wakeUpNext (s.value + 1) s.woken s.asleep

/-- The rest of `acquire()`, for a task that has got its permit. -/
def resume [DecidableEq τ] (t : τ) (s : Semaphore τ) : Semaphore τ :=
  if h : 0 < s.value then wakeUpNext s.value (s.woken.erase t) s.asleep
  else { s with woken := s.woken.erase t, alert := fun hv => absurd hv h }

/-- The permits stay the same, and the queue keeps its order. -/
theorem wakeUpNext_spec {value : Nat} (hv : 0 < value) (woken asleep : List τ) :
    (wakeUpNext value woken asleep).value + (wakeUpNext value woken asleep).woken.length =
        value + woken.length ∧
      (wakeUpNext value woken asleep).woken ++ (wakeUpNext value woken asleep).asleep =
        woken ++ asleep ∧
      (wakeUpNext value woken asleep).asleep <:+ asleep := by
  cases asleep with
  | nil => exact ⟨rfl, rfl, List.suffix_rfl⟩
  | cons t rest =>
    refine ⟨?_, List.append_cons woken t rest ▸ rfl, List.suffix_cons t rest⟩
    simp only [wakeUpNext, List.length_append, List.length_singleton]
    omega

/-- A woken task that runs is taken out of the queue, which keeps its order. -/
theorem resume_spec [DecidableEq τ] (t : τ) (s : Semaphore τ) :
    (s.resume t).value + (s.resume t).woken.length = s.value + (s.woken.erase t).length ∧
      (s.resume t).woken ++ (s.resume t).asleep = s.woken.erase t ++ s.asleep ∧
      (s.resume t).asleep <:+ s.asleep := by
  unfold resume
  split
  · exact wakeUpNext_spec ‹_› (s.woken.erase t) s.asleep
  · exact ⟨rfl, rfl, List.suffix_rfl⟩

end Semaphore

/-- Tasks around a semaphore. -/
structure Crowd (τ : Type) where
  sem : Semaphore τ
  /-- Who has called `acquire()`, in this order. -/
  arrived : List τ := []
  holding : List τ := []

namespace Crowd

variable {τ : Type}

/-- The task calls `acquire()`. -/
def enter (t : τ) (c : Crowd τ) : Crowd τ where
  sem := (c.sem.acquire t).1
  arrived := c.arrived ++ [t]
  holding := if (c.sem.acquire t).2 then c.holding else c.holding ++ [t]

/-- The task runs, with its permit. -/
def proceed [DecidableEq τ] (t : τ) (c : Crowd τ) : Crowd τ :=
  { c with sem := c.sem.resume t, holding := c.holding ++ [t] }

/-- The task calls `release()`. -/
def leave [DecidableEq τ] (t : τ) (c : Crowd τ) : Crowd τ :=
  { c with sem := c.sem.release, holding := c.holding.erase t }

/-- Everybody who is in `acquire()` or holds a permit. -/
def present (c : Crowd τ) : List τ := c.sem.woken ++ c.sem.asleep ++ c.holding

/-- No permit is lost or made up, nobody is in two places, and who sleeps has come after everybody
who does not. -/
structure Orderly (limit : Nat) (c : Crowd τ) : Prop where
  permits : c.sem.value + c.sem.woken.length + c.holding.length = limit
  once : c.present.Nodup
  known : c.present ⊆ c.arrived
  fifo : c.sem.asleep <:+ c.arrived

section Facts

variable {limit : Nat} {c : Crowd τ}

theorem orderly_new (limit : Nat) : Orderly limit ({ sem := .new limit } : Crowd τ) :=
  ⟨rfl, List.nodup_nil, List.Subset.refl _, List.suffix_rfl⟩

/-- **A crowd is not stuck**: if nobody holds a permit and nobody is about to get one, nobody
waits. -/
theorem Orderly.not_stuck (h : c.Orderly limit) (hlimit : 0 < limit) (hholding : c.holding = [])
    (hwoken : c.sem.woken = []) : c.sem.asleep = [] ∧ 0 < c.sem.value := by
  have hpermits := h.permits
  rw [hholding, hwoken, List.length_nil, Nat.add_zero] at hpermits
  have hvalue : 0 < c.sem.value := hpermits ▸ hlimit
  refine ⟨?_, hvalue⟩
  by_contra hasleep
  exact c.sem.alert hvalue hasleep hwoken

/-- A new task either holds a permit or sleeps behind all the others. -/
theorem Orderly.enter (h : c.Orderly limit) {t : τ} (ht : t ∉ c.arrived) :
    (c.enter t).Orderly limit := by
  have hnew : t ∉ c.present := fun hmem => ht (h.known hmem)
  have hpermits := h.permits
  have honce := h.once
  unfold present at honce hnew
  unfold Crowd.enter Semaphore.acquire
  split
  · refine ⟨hpermits, ?_, ?_, ?_⟩
    · have hperm : (c.sem.woken ++ (c.sem.asleep ++ [t]) ++ c.holding).Perm
          (t :: (c.sem.woken ++ c.sem.asleep ++ c.holding)) := by
        rw [← List.append_assoc, List.append_assoc _ [t]]
        exact List.perm_middle
      exact hperm.nodup_iff.mpr (List.nodup_cons.mpr ⟨hnew, honce⟩)
    · intro u hu
      have hu : u ∈ c.sem.woken ++ (c.sem.asleep ++ [t]) ++ c.holding := hu
      have hold : u ∈ c.present ∨ u = t := by
        simp only [present, List.mem_append, List.mem_singleton] at hu ⊢
        tauto
      exact hold.elim (fun hp => List.mem_append_left _ (h.known hp))
        (fun he => List.mem_append_right _ (List.mem_singleton.mpr he))
    · obtain ⟨served, hserved⟩ := h.fifo
      exact ⟨served, by rw [← hserved, List.append_assoc]⟩
  · rename_i hfree
    rw [Semaphore.locked_iff, not_or, not_or, not_not, not_not] at hfree
    obtain ⟨hvalue, -, hasleep⟩ := hfree
    refine ⟨?_, ?_, ?_, ?_⟩
    · simp only [Bool.false_eq_true, if_false, List.length_append, List.length_singleton]
      omega
    · have hlast : (c.sem.woken ++ c.sem.asleep ++ (c.holding ++ [t])).Nodup := by
        rw [← List.append_assoc, ← List.concat_eq_append]
        exact honce.concat hnew
      exact hlast
    · intro u hu
      have hu : u ∈ c.sem.woken ++ c.sem.asleep ++ (c.holding ++ [t]) := hu
      rw [← List.append_assoc] at hu
      exact (List.mem_append.mp hu).elim (fun hp => List.mem_append_left _ (h.known hp))
        (fun he => List.mem_append_right _ he)
    · have hfirst : c.sem.asleep <:+ c.arrived ++ [t] := hasleep ▸ List.nil_suffix
      exact hfirst

/-- Who has called `acquire()` is there, with or without a permit. -/
theorem mem_present_enter {t u : τ} : u ∈ (c.enter t).present ↔ u ∈ c.present ∨ u = t := by
  unfold Crowd.enter Semaphore.acquire present
  split
  · simp only [if_true, List.mem_append, List.mem_singleton]
    tauto
  · simp only [Bool.false_eq_true, if_false, List.mem_append, List.mem_singleton]
    tauto

theorem holding_subset_enter (t : τ) : c.holding ⊆ (c.enter t).holding := by
  unfold Crowd.enter
  split
  · exact List.Subset.refl _
  · exact List.subset_append_left _ _

/-- Without a queue a free permit is taken at once. -/
theorem holding_enter {t : τ} (hvalue : 0 < c.sem.value) (hwoken : c.sem.woken = [])
    (hasleep : c.sem.asleep = []) : t ∈ (c.enter t).holding := by
  have hfree : ¬ c.sem.locked = true := by
    rw [Semaphore.locked_iff, hwoken, hasleep]
    simp [Nat.pos_iff_ne_zero.mp hvalue]
  unfold Crowd.enter Semaphore.acquire
  simp only [dif_neg hfree, Bool.false_eq_true, if_false]
  exact List.mem_append_right _ (List.mem_singleton_self t)

theorem present_proceed [DecidableEq τ] {t : τ} (ht : t ∈ c.sem.woken) :
    (c.proceed t).present.Perm c.present := by
  have hpresent : (c.proceed t).present =
      c.sem.woken.erase t ++ c.sem.asleep ++ (c.holding ++ [t]) :=
    congrArg (· ++ (c.holding ++ [t])) (Semaphore.resume_spec t c.sem).2.1
  rw [hpresent, ← List.append_assoc]
  refine (List.perm_append_singleton _ _).trans ?_
  exact List.Perm.append_right _ (List.Perm.append_right _ (List.perm_cons_erase ht).symm)

/-- A woken task takes its permit. -/
theorem Orderly.proceed [DecidableEq τ] (h : c.Orderly limit) {t : τ} (ht : t ∈ c.sem.woken) :
    (c.proceed t).Orderly limit := by
  have hpermits := h.permits
  have hlength := List.length_erase_of_mem ht
  have hpos := List.length_pos_of_mem ht
  obtain ⟨hsum, -, hfifo⟩ := Semaphore.resume_spec t c.sem
  have hperm := present_proceed ht
  refine ⟨?_, hperm.nodup_iff.mpr h.once, fun u hu => h.known (hperm.subset hu),
    hfifo.trans h.fifo⟩
  show (c.sem.resume t).value + (c.sem.resume t).woken.length + (c.holding ++ [t]).length = limit
  rw [hsum, hlength, List.length_append, List.length_singleton]
  omega

theorem present_leave [DecidableEq τ] (t : τ) :
    (c.leave t).present = c.sem.woken ++ c.sem.asleep ++ c.holding.erase t :=
  congrArg (· ++ c.holding.erase t)
    (Semaphore.wakeUpNext_spec (Nat.succ_pos c.sem.value) c.sem.woken c.sem.asleep).2.1

/-- Who has left is nowhere, and everybody else where it was. -/
theorem Orderly.mem_present_leave [DecidableEq τ] (h : c.Orderly limit) {t u : τ}
    (ht : t ∈ c.holding) : u ∈ (c.leave t).present ↔ u ∈ c.present ∧ u ≠ t := by
  have honce := h.once
  unfold present at honce
  have hholding := (List.nodup_append.mp honce).2.1
  have hqueue : t ∉ c.sem.woken ++ c.sem.asleep := fun hmem =>
    (List.nodup_append.mp honce).2.2 t hmem t ht rfl
  rw [present_leave, present, List.mem_append (t := c.holding.erase t), hholding.mem_erase_iff,
    List.mem_append (t := c.holding)]
  constructor
  · rintro (hu | ⟨hne, hu⟩)
    · exact ⟨Or.inl hu, fun he => hqueue (he ▸ hu)⟩
    · exact ⟨Or.inr hu, hne⟩
  · rintro ⟨hu | hu, hne⟩
    · exact Or.inl hu
    · exact Or.inr ⟨hne, hu⟩

/-- A task gives its permit back. -/
theorem Orderly.leave [DecidableEq τ] (h : c.Orderly limit) {t : τ} (ht : t ∈ c.holding) :
    (c.leave t).Orderly limit := by
  have hpermits := h.permits
  have hlength := List.length_erase_of_mem ht
  have hpos := List.length_pos_of_mem ht
  obtain ⟨hsum, -, hfifo⟩ :=
    Semaphore.wakeUpNext_spec (Nat.succ_pos c.sem.value) c.sem.woken c.sem.asleep
  have hsub : (c.leave t).present.Sublist c.present := by
    rw [present_leave]
    exact List.Sublist.append_left List.erase_sublist _
  refine ⟨?_, h.once.sublist hsub, fun u hu => h.known (hsub.subset hu),
    hfifo.trans h.fifo⟩
  show (Semaphore.wakeUpNext (c.sem.value + 1) c.sem.woken c.sem.asleep).value +
    (Semaphore.wakeUpNext (c.sem.value + 1) c.sem.woken c.sem.asleep).woken.length +
      (c.holding.erase t).length = limit
  rw [hsum, hlength]
  omega

end Facts

end Crowd

end Relay
