/-
# Cumulative acknowledgement

A sender releases items one after the other, and a receiver acknowledges.  One acknowledgement
covers any number of the items released before it, and none released after it.

`outstanding` is what such a history leaves open, read off the history itself: the items, in the
order of their release, that no LATER acknowledgement covers.  A sender keeps the list instead, by
appending at a release and filtering at an acknowledgement; `outstanding_released` and
`outstanding_acked` say that this computes the same thing.
-/
import Mathlib

namespace Relay

/-- One event at the sender. -/
inductive WindowEvent (α β : Type)
  | released (a : α)
  | acked (b : β)

section Window

variable {α β : Type} (covers : β → α → Bool)

/-- The event is an acknowledgement that covers the item. -/
def WindowEvent.covering (a : α) : WindowEvent α β → Bool
  | .released _ => false
  | .acked b => covers b a

/-- The items released and not acknowledged since, in the order of their release. -/
def outstanding : List (WindowEvent α β) → List α
  | [] => []
  | .released a :: later =>
    (if later.any (WindowEvent.covering covers a) then [] else [a]) ++ outstanding later
  | .acked _ :: later => outstanding later

/-- A longer history: what was open and is not covered by the new part, then what the new part
leaves open. -/
theorem outstanding_append : ∀ h h' : List (WindowEvent α β),
    outstanding covers (h ++ h') = (outstanding covers h).filter
      (fun a => !h'.any (WindowEvent.covering covers a)) ++ outstanding covers h'
  | [], h' => rfl
  | .acked _ :: h, h' => outstanding_append h h'
  | .released a :: h, h' => by
    simp only [List.cons_append, outstanding, outstanding_append h h', List.any_append,
      List.filter_append, List.append_assoc]
    congr 1
    cases h.any (WindowEvent.covering covers a) <;>
      cases hh : h'.any (WindowEvent.covering covers a) <;> simp [hh]

theorem outstanding_released (h : List (WindowEvent α β)) (a : α) :
    outstanding covers (h ++ [.released a]) = outstanding covers h ++ [a] := by
  rw [outstanding_append]
  simp [WindowEvent.covering, outstanding]

theorem outstanding_acked (h : List (WindowEvent α β)) (b : β) :
    outstanding covers (h ++ [.acked b]) = (outstanding covers h).filter (fun a => !covers b a) := by
  rw [outstanding_append]
  simp [WindowEvent.covering, outstanding]

end Window

end Relay
