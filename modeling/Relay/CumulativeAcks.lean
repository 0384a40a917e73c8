/-
# Cumulative acks

ACK frames come late, twice and out of order.  `on_ack` filters the list of in-flight pairs, each
call on what the one before it left, and says how many it released.

A call `(channel, sequence)` is the removal under the marks of that one acknowledgement
(`onAck_inflight`), so a list of calls is the removal under their marks (`onAcks_inflight`): the
highest sequence acked on each channel, and nothing else, decides what stays.

* `acks_act_by_maxima`: what follows for any in-flight list and any list of calls.
-/
import Mathlib
import Relay.Connection
import Relay.Lib.Watermark

namespace Relay

namespace Connection

/-! ## 1. Calls one after another -/

/-- The calls one after another, with no send in between: what each returns, and the connection. -/
def onAcks (env : Env) : List (Channel × Int) → Connection → List Nat × Connection
  | [], c => ([], c)
  | (channel, sequence) :: calls, c =>
    let first := c.onAck env channel sequence
    let rest := onAcks env calls first.2
    (first.1 :: rest.1, rest.2)

variable (env : Env)

/-- One call removes what its marks cover. -/
theorem onAck_inflight (channel : Channel) (sequence : Int) (c : Connection) :
    (c.onAck env channel sequence).2.inflight = above (marks [(channel, sequence)]) c.inflight := by
  unfold onAck above
  refine List.filter_congr ?_
  intro e _
  rw [marks_cons, marks_nil]
  by_cases he : channel = e.1
  · simp [he]
  · simp [he, Ne.symm he]

theorem onAcks_inflight (calls : List (Channel × Int)) (c : Connection) :
    (onAcks env calls c).2.inflight = above (marks calls) c.inflight := by
  rw [← foldl_above]
  induction calls generalizing c with
  | nil => rfl
  | cons call calls ih =>
    obtain ⟨channel, sequence⟩ := call
    rw [List.foldl_cons, ← onAck_inflight env channel sequence c]
    exact ih (c.onAck env channel sequence).2

/-- A call counts the entries it removes. -/
theorem onAck_count (channel : Channel) (sequence : Int) (c : Connection) :
    (c.onAck env channel sequence).1 + (c.onAck env channel sequence).2.inflight.length =
      c.inflight.length := by
  unfold onAck
  exact Nat.sub_add_cancel (List.length_filter_le _ _)

/-- No entry is counted twice, and none is forgotten. -/
theorem onAcks_count (calls : List (Channel × Int)) (c : Connection) :
    (onAcks env calls c).1.sum + (onAcks env calls c).2.inflight.length = c.inflight.length := by
  induction calls generalizing c with
  | nil => simp [onAcks]
  | cons call calls ih =>
    obtain ⟨channel, sequence⟩ := call
    have hfirst := onAck_count env channel sequence c
    have hrest := ih (c.onAck env channel sequence).2
    simp only [onAcks, List.sum_cons]
    omega

/-! ## 2. The action of the maxima -/

/-- **Acks act by their maxima.**  After any list of calls, an entry is left iff its number is above
the highest one acked on its channel, and the entries left are in their order.  So the result is the
same for every list of calls with the same maxima: for the calls in another order, and with a call
added anywhere that is at or below one of its channel.  Channels without a call keep their entries,
and the counts sum to the number of entries removed. -/
theorem acks_act_by_maxima (env : Env) (c : Connection) (calls : List (Channel × Int)) :
    let left := (onAcks env calls c).2.inflight
    left = c.inflight.filter (fun e => !decide ((e.2 : WithBot Int) ≤ marks calls e.1)) ∧
    left.Sublist c.inflight ∧
    (∀ calls', (∀ channel, marks calls' channel = marks calls channel) →
      (onAcks env calls' c).2.inflight = left) ∧
    (∀ calls', calls'.Perm calls → (onAcks env calls' c).2.inflight = left) ∧
    (∀ pre post, pre ++ post = calls → ∀ a ∈ calls, ∀ sequence ≤ a.2,
      (onAcks env (pre ++ (a.1, sequence) :: post) c).2.inflight = left) ∧
    (∀ channel, (∀ a ∈ calls, a.1 ≠ channel) →
      left.filter (fun e => e.1 = channel) = c.inflight.filter (fun e => e.1 = channel)) ∧
    (onAcks env calls c).1.sum + left.length = c.inflight.length := by
  intro left
  have hleft : left = above (marks calls) c.inflight := onAcks_inflight env calls c
  have hsame : ∀ calls', marks calls' = marks calls →
      (onAcks env calls' c).2.inflight = left := by
    intro calls' h
    rw [hleft, onAcks_inflight, h]
  refine ⟨hleft, ?_, ?_, ?_, ?_, ?_, onAcks_count env calls c⟩
  · rw [hleft]
    exact above_sublist _ _
  · intro calls' h
    exact hsame calls' (funext h)
  · intro calls' h
    exact hsame calls' (marks_perm h)
  · intro pre post hsplit a ha sequence hle
    refine hsame _ ?_
    -- move the added call to the front, where it is absorbed
    rw [marks_perm List.perm_middle, hsplit]
    exact marks_absorb ha rfl hle
  · intro channel hno
    rw [hleft]
    exact filter_above_of_bot (marks_of_not_mem hno) c.inflight

end Connection

end Relay
