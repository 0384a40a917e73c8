/-
# `asyncio.Event`

An event is a flag and the futures of the tasks suspended in `wait()`.  `set()` on an event that is
not set raises the flag and resolves every future; on an event that is set it does nothing.
`clear()` lowers the flag and leaves the futures alone, so a task whose future is resolved gets out
of `wait()` even if the flag is down again when it runs.  `wait()` on an event that is set does not
suspend.

So no future is pending while the flag is up.  This is a field of `AsyncEvent`, and it is why the
early return of `set()` never leaves a task behind (`waiters_set`).
-/
import Mathlib.Data.List.Basic

namespace Relay

/-- An `asyncio.Event`; `waiters` has a task in `wait()` with whether its future is resolved. -/
structure AsyncEvent (τ : Type) where
  value : Bool
  waiters : List (τ × Bool)
  resolved : value = true → ∀ w ∈ waiters, w.2 = true

namespace AsyncEvent

variable {τ : Type} [DecidableEq τ]

/-- A new event on which `set()` has been called. -/
def raised : AsyncEvent τ := ⟨true, [], fun _ _ h => absurd h (List.not_mem_nil)⟩

/-- `set()`. -/
def set (e : AsyncEvent τ) : AsyncEvent τ :=
  if e.value then e
  else
    { value := true
      waiters := e.waiters.map (fun w => (w.1, true))
      resolved := by
        intro _ w hw
        obtain ⟨v, -, rfl⟩ := List.mem_map.mp hw
        rfl }

/-- `clear()`. -/
def clear (e : AsyncEvent τ) : AsyncEvent τ :=
  { e with value := false, resolved := fun h => absurd h Bool.false_ne_true }

/-- `wait()` of the task: the event, and whether the task is suspended. -/
def wait (t : τ) (e : AsyncEvent τ) : AsyncEvent τ × Bool :=
  if h : e.value then (e, false)
  else ({ e with waiters := e.waiters ++ [(t, false)], resolved := fun hv => absurd hv h }, true)

/-- The task leaves `wait()`, which takes its future out of the waiters. -/
def forget (t : τ) (e : AsyncEvent τ) : AsyncEvent τ :=
  { e with
    waiters := e.waiters.filter (fun w => !decide (w.1 = t))
    resolved := fun hv w hw => e.resolved hv w (List.mem_of_mem_filter hw) }

/-- The event loop resumes the task, if its future is resolved. -/
def resume (t : τ) (e : AsyncEvent τ) : Option (AsyncEvent τ) :=
  if (t, true) ∈ e.waiters then some (e.forget t) else none

@[simp] theorem forget_value (t : τ) (e : AsyncEvent τ) : (e.forget t).value = e.value := rfl

omit [DecidableEq τ]

@[simp] theorem set_value (e : AsyncEvent τ) : e.set.value = true := by
  unfold set
  split
  · assumption
  · rfl

@[simp] theorem clear_value (e : AsyncEvent τ) : e.clear.value = false := rfl

/-- `wait()` right after `clear()` suspends the task, with a new future. -/
theorem wait_clear (t : τ) (e : AsyncEvent τ) :
    (e.clear.wait t).2 = true ∧ (e.clear.wait t).1.value = false ∧
      (e.clear.wait t).1.waiters = e.waiters ++ [(t, false)] :=
  ⟨rfl, rfl, rfl⟩

/-- **After `set()` every waiter can run**, whatever was called before. -/
theorem waiters_set (e : AsyncEvent τ) : e.set.waiters = e.waiters.map (fun w => (w.1, true)) := by
  unfold set
  split
  · rename_i hv
    -- the early return: the futures are resolved already
    have hself : e.waiters.map (fun w => (w.1, true)) = e.waiters.map id := by
      refine List.map_congr_left ?_
      intro w hw
      exact Prod.ext rfl (e.resolved hv w hw).symm
    rw [hself, List.map_id]
  · rfl

end AsyncEvent

end Relay
