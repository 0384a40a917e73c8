/-
# The dedup window of the client

`rememberId` keeps the ids of the messages that were not suppressed in a set and, in order, in a
list, and evicts the oldest ones from both when the list is longer than `dedupWindowSize`
(`docs/delivery-semantics.md`).  Over every run of the client the two are the window of
`Relay.Lib.Fifo` over the ids accepted so far, in the order in which they were accepted.

* `Remembers`: what the two hold, given the ids accepted.
* `remembers_step`, `remembers_run`: it is so after every run.
* `dedup_window_exact`: the window holds the last ids accepted and each once, a message is
  suppressed iff its id is among them, and an id that was accepted is accepted again only after as
  many other acceptances as the window is wide.
-/
import Mathlib
import Relay.LiveClient
import Relay.Lib.Fifo

namespace Relay

/-! ## 1. Remembering an id -/

namespace RelayClient

variable (opts : ClientOptions)

/-- `seenOrder` and `seenIds` are the window over the ids accepted. -/
structure Remembers (c : RelayClient) (ids : List String) : Prop where
  spaced : Spaced opts.dedupWindowSize ids
  order : c.seenOrder = ids.rtake opts.dedupWindowSize
  set : ∀ id, id ∈ c.seenIds ↔ id ∈ c.seenOrder

theorem remembers_new : Remembers opts {} [] where
  spaced := spaced_nil _
  order := (List.rtake_nil _).symm
  set := by
    intro id
    exact iff_of_false (OSet.not_mem_empty id) List.not_mem_nil

variable {opts}

/-- A new id, which evicts the oldest ones. -/
theorem Remembers.rememberId {c : RelayClient} {ids : List String} {id : String}
    (h : Remembers opts c ids) (hnew : id ∉ c.seenIds) :
    Remembers opts (c.rememberId opts id) (ids ++ [id]) := by
  have hid : id ∉ c.seenOrder := fun hold => hnew ((h.set id).mpr hold)
  have hnodup : (c.seenOrder ++ [id]).Nodup := by
    rw [List.nodup_append']
    refine ⟨h.order ▸ h.spaced.nodup, List.nodup_singleton id, ?_⟩
    intro x hx hxid
    exact hid (List.mem_singleton.mp hxid ▸ hx)
  refine ⟨h.spaced.concat (h.order ▸ hid), ?_, ?_⟩
  · rw [rtake_concat, ← h.order]
    rfl
  · intro x
    show x ∈ List.foldl _ (c.seenIds.add id) _ ↔ x ∈ List.drop _ (c.seenOrder ++ [id])
    rw [mem_foldl_discard, mem_drop_iff hnodup, OSet.mem_add, h.set x, List.mem_append,
      List.mem_singleton, or_comm]

end RelayClient

/-! ## 2. Runs -/

namespace LiveClient

open RelayClient (Remembers remembers_new)

variable (opts : ClientOptions)

/-- The id of the message that a step takes in without suppressing it. -/
def acceptedIds (s : LiveClient) : ClientAct → List String
  | .frame (.message m) => if s.suppresses opts m then [] else [m.messageId]
  | _ => []

variable {opts}

theorem acceptedIds_eq (opts : ClientOptions) (s : LiveClient) (a : ClientAct) :
    s.acceptedIds opts a = match s.fresh? a with
      | some m => [m.messageId]
      | none => [] := by
  cases hf : s.fresh? a with
  | some m =>
    obtain ⟨rfl, hnew⟩ := fresh?_eq_some opts hf
    rw [acceptedIds, hnew]
    rfl
  | none =>
    unfold acceptedIds
    split
    · rw [suppresses_of_stale opts hf]
      rfl
    · rfl

/-- A step adds to the window exactly the id it accepts. -/
theorem remembers_step (s : LiveClient) (a : ClientAct) (ids : List String)
    (h : Remembers opts s.client ids) :
    Remembers opts (s.step opts a).client (ids ++ s.acceptedIds opts a) := by
  have hids := (stepped opts s a).seenIds
  have horder := (stepped opts s a).seenOrder
  rw [acceptedIds_eq]
  cases hf : s.fresh? a with
  | some m =>
    rw [hf] at hids horder
    have hnew : m.messageId ∉ s.client.seenIds := by
      rw [← suppresses_iff opts, (fresh?_eq_some opts hf).2]
      exact Bool.false_ne_true
    have hnext := h.rememberId hnew
    exact ⟨hnext.spaced, horder.trans hnext.order, by rw [hids, horder]; exact hnext.set⟩
  | none =>
    rw [hf] at hids horder
    rw [List.append_nil]
    exact ⟨h.spaced, horder.trans h.order, by rw [hids, horder]; exact h.set⟩

/-- The ids accepted in a run of a new client, in order. -/
def idsAccepted (opts : ClientOptions) (acts : List ClientAct) : List String :=
  emitted (step opts) (acceptedIds opts) {} acts

theorem remembers_run (opts : ClientOptions) (acts : List ClientAct) :
    Remembers opts (runAll (step opts) {} acts).client (idsAccepted opts acts) := by
  have hstep : ∀ (s : LiveClient) (a : ClientAct) (ids : List String),
      Remembers opts s.client ids →
      Remembers opts (s.step opts a).client (ids ++ s.acceptedIds opts a) := remembers_step
  exact emitted_history hstep acts {} [] (remembers_new opts)

/-- **Duplicate suppression is exactly a bounded FIFO window**, after every run: `seenOrder` has no
repetition, `seenIds` holds the same ids, they are the last `dedupWindowSize` of the ids accepted, a
message is suppressed, which is to say that it never gets to the handlers, iff its id is one of them,
and between two acceptances of an id there were at least `dedupWindowSize` acceptances of others. -/
theorem dedup_window_exact (opts : ClientOptions) (acts : List ClientAct) :
    let s := runAll (step opts) {} acts
    let ids := idsAccepted opts acts
    s.client.seenOrder.Nodup ∧
    (∀ id, id ∈ s.client.seenIds ↔ id ∈ s.client.seenOrder) ∧
    s.client.seenOrder.length ≤ opts.dedupWindowSize ∧
    s.client.seenOrder = ids.rtake (min opts.dedupWindowSize ids.length) ∧
    (∀ m, (s.suppresses opts m = true ↔ m.messageId ∈ s.client.seenOrder) ∧
      (s.suppresses opts m = true ↔
        (s.step opts (.frame (.message m))).inbox.runs = s.inbox.runs)) ∧
    ∀ before id between after, ids = before ++ id :: between ++ id :: after →
      opts.dedupWindowSize ≤ (between.filter (· ≠ id)).length := by
  intro s ids
  have h : Remembers opts s.client ids := remembers_run opts acts
  have hmin : ids.length - min opts.dedupWindowSize ids.length =
      ids.length - opts.dedupWindowSize := by omega
  refine ⟨?_, h.set, ?_, ?_, ?_, ?_⟩
  · rw [h.order]
    exact h.spaced.nodup
  · rw [h.order, length_rtake]
    exact min_le_left _ _
  · rw [h.order, List.rtake, List.rtake, hmin]
  · intro m
    exact ⟨by rw [suppresses_iff, h.set], suppresses_iff_runs opts s m⟩
  · intro before id between after heq
    exact h.spaced.apart before between after heq

end LiveClient

end Relay
