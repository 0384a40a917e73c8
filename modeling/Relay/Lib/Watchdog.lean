/-
# A watchdog that probes and polls

A task watches a peer by the clock.  It rests for an interval, sends a probe, and then looks every
so often whether the peer has been heard from since the probe; if not by the deadline, it gives the
peer up.  All it reads of the peer is the time it was last heard.

A task is resumed when its sleep is over or later, never earlier.  `OnTime late` is the assumption
that it is never more than `late` behind.

* `silence_le`: if the task is on time, a peer that is not given up has been heard from within an
  interval, a timeout and two polls.
-/
import Mathlib
import Relay.Lib.Run

namespace Relay

namespace Watchdog

/-- The times a watchdog is configured with. -/
structure Timing where
  interval : Nat
  timeout : Nat
  poll : Nat

/-- Where the task is suspended, and from when on it may be resumed. -/
inductive Phase
  | resting (due : Nat)
  | listening (sentAt deadline due : Nat)
  /-- The watch is over. -/
  | ended

/-- The clock, when the peer was last heard, and the task. -/
structure State where
  now : Nat
  heard : Nat
  phase : Phase

inductive Act
  | tick (d : Nat)
  | hear
  | wake
  /-- The watch is called off. -/
  | stop

/-- The loop that looks for an answer, from its test on. -/
def look (t : Timing) (now sentAt deadline : Nat) : Phase :=
  if now < deadline then .listening sentAt deadline (now + t.poll) else .ended

/-- The task is resumed. -/
def resume (t : Timing) (s : State) : Phase :=
  match s.phase with
  | .resting due =>
    if due ≤ s.now then look t s.now s.now (s.now + t.timeout) else s.phase
  | .listening sentAt deadline due =>
    if due ≤ s.now then
      if sentAt ≤ s.heard then .resting (s.now + t.interval) else look t s.now sentAt deadline
    else s.phase
  | .ended => .ended

def step (t : Timing) (s : State) : Act → State
  | .tick d => { s with now := s.now + d }
  | .hear => { s with heard := s.now }
  | .wake => { s with phase := resume t s }
  | .stop => { s with phase := .ended }

/-- When the task may be resumed. -/
def Phase.due? : Phase → Option Nat
  | .resting due => some due
  | .listening _ _ due => some due
  | .ended => none

/-- The clock does not run more than `late` past the end of a sleep before the task is resumed. -/
def OnTime (late : Nat) (s : State) : Act → Prop
  | .tick d => ∀ due ∈ s.phase.due?, s.now + d ≤ due + late
  | _ => True

/-- What the times of a phase have to do with each other and with the last sign of life. -/
def Fits (t : Timing) (late now heard : Nat) : Phase → Prop
  | .resting due => now ≤ due + late ∧ due ≤ heard + t.poll + late + t.interval
  | .listening sentAt deadline due =>
    now ≤ due + late ∧ due ≤ now + t.poll ∧ sentAt ≤ now ∧ deadline = sentAt + t.timeout ∧
      -- unanswered, the probe went out in time and the next look is the last one after the deadline
      (heard < sentAt → sentAt ≤ heard + t.poll + t.interval + 2 * late ∧ due ≤ deadline + t.poll) ∧
      -- answered, the next look will notice
      (sentAt ≤ heard → due ≤ heard + t.poll)
  | .ended => True

/-- The invariant of a watch that is resumed on time. -/
def Timely (t : Timing) (late : Nat) (s : State) : Prop :=
  s.heard ≤ s.now ∧ Fits t late s.now s.heard s.phase

section Timely

variable {t : Timing} {late : Nat} {s : State}

/-- A look that comes before the deadline of a probe not answered. -/
theorem fits_look {now heard sentAt : Nat} (hle : heard ≤ now) (hsent : sentAt ≤ now)
    (hnew : sentAt ≤ heard → sentAt = now)
    (hprobe : sentAt ≤ heard + t.poll + t.interval + 2 * late) :
    Fits t late now heard (look t now sentAt (sentAt + t.timeout)) := by
  unfold look
  split
  · simp only [Fits]
    refine ⟨by omega, Nat.le_refl _, hsent, trivial, fun _ => ⟨hprobe, by omega⟩, fun h => ?_⟩
    have := hnew h
    omega
  · trivial

theorem timely_wake (h : Timely t late s) : Timely t late (step t s .wake) := by
  obtain ⟨hheard, hfits⟩ := h
  refine ⟨hheard, ?_⟩
  simp only [step, resume]
  cases hphase : s.phase with
  | resting due =>
    rw [hphase] at hfits
    simp only
    split
    · simp only [Fits] at hfits
      exact fits_look hheard (Nat.le_refl _) (fun _ => rfl) (by omega)
    · exact hfits
  | listening sentAt deadline due =>
    rw [hphase] at hfits
    simp only
    split
    · obtain ⟨hnow, hpoll, hsent, hdeadline, hsilent, hanswered⟩ := hfits
      split
      · rename_i hans
        have := hanswered hans
        simp only [Fits]
        omega
      · rename_i hans
        have hlt : s.heard < sentAt := Nat.lt_of_not_le hans
        rw [hdeadline]
        exact fits_look hheard hsent (fun h => absurd h hans) (hsilent hlt).1
    · exact hfits
  | ended => trivial

theorem timely_hear (h : Timely t late s) : Timely t late (step t s .hear) := by
  obtain ⟨hheard, hfits⟩ := h
  refine ⟨Nat.le_refl _, ?_⟩
  simp only [step]
  cases hphase : s.phase with
  | resting due =>
    simp only [hphase, Fits] at hfits ⊢
    omega
  | listening sentAt deadline due =>
    simp only [hphase, Fits] at hfits ⊢
    obtain ⟨hnow, hpoll, hsent, hdeadline, -, -⟩ := hfits
    exact ⟨hnow, hpoll, hsent, hdeadline, fun hlt => absurd hsent (Nat.not_le.mpr hlt),
      fun _ => hpoll⟩
  | ended => trivial

theorem timely_tick {d : Nat} (h : Timely t late s) (hok : OnTime late s (.tick d)) :
    Timely t late (step t s (.tick d)) := by
  obtain ⟨hheard, hfits⟩ := h
  refine ⟨Nat.le_trans hheard (Nat.le_add_right _ _), ?_⟩
  simp only [step]
  cases hphase : s.phase with
  | resting due =>
    have := hok due (by rw [hphase]; rfl)
    simp only [hphase, Fits] at hfits ⊢
    omega
  | listening sentAt deadline due =>
    have := hok due (by rw [hphase]; rfl)
    simp only [hphase, Fits] at hfits ⊢
    obtain ⟨-, hpoll, hsent, hdeadline, hsilent, hanswered⟩ := hfits
    exact ⟨this, by omega, by omega, hdeadline, hsilent, hanswered⟩
  | ended => trivial

/-- One step of a watch that is resumed on time. -/
theorem timely_step (h : Timely t late s) (a : Act) (hok : OnTime late s a) :
    Timely t late (step t s a) := by
  cases a with
  | tick d => exact timely_tick h hok
  | hear => exact timely_hear h
  | wake => exact timely_wake h
  | stop => exact ⟨h.1, trivial⟩

/-- A peer that is still watched has been heard from lately. -/
theorem Timely.silence_le (h : Timely t late s) (halive : s.phase ≠ .ended) :
    s.now ≤ s.heard + t.interval + t.timeout + 2 * t.poll + 3 * late := by
  obtain ⟨hheard, hfits⟩ := h
  cases hphase : s.phase with
  | resting due =>
    simp only [hphase, Fits] at hfits
    omega
  | listening sentAt deadline due =>
    simp only [hphase, Fits] at hfits
    obtain ⟨hnow, -, -, hdeadline, hsilent, hanswered⟩ := hfits
    rcases Nat.lt_or_ge s.heard sentAt with hlt | hge
    · have := hsilent hlt
      omega
    · have := hanswered hge
      omega
  | ended => exact absurd hphase halive

end Timely

end Watchdog

end Relay
