/-
# The bounds of the outbound queue

`enqueue` tests two bounds, on the number of queued frames and on their bytes, and lets a HIGH frame
pass over both.  The bytes are credited by `enqueue` and debited by the sender, in different tasks,
and a NORMAL frame is judged against totals that HIGH frames have pushed up.

The bounds are therefore not bounds on the queue.  They hold of the frames that are not HIGH: when
one of them is accepted the whole queue is within the bounds, and what happens after that adds HIGH
frames, which do not count, or takes frames away (`Bounded`).

`enqueue` is given here a second time, statement by statement, because an exception keeps what was
assigned before it; `run_enqueueBody` says that nothing was.

* `queue_bounded`: over every run, the accounting and the bounds, and what each priority gets.
-/
import Mathlib
import Relay.Sender

namespace Relay

namespace Connection

/-! ## 1. `enqueue`, statement by statement -/

/-- `Connection.enqueue` as it runs.  The `put` on an unbounded queue does not suspend. -/
def enqueueBody (env : Env) (payload : ServerFrame) (priority : Priority)
    (channel : Option Channel) (sequence : Option Int) : EStateM Exn Connection Unit := do
  let size := env.wireSize payload
  let overLimit := (← get).overLimit env size
  if overLimit then
    if priority = .low then
      modify (fun c => { c with messagesDropped := c.messagesDropped + 1 })
      return
    if priority ≠ .high then
      throw .slowConsumer
  modify (fun c => { c with queueBytes := c.queueBytes + size })
  let item : QueuedMessage := ⟨payload, size, priority, channel, sequence⟩
  modify (fun c => { c with queue := c.queue ++ [item], accepted := c.accepted ++ [item] })

section Enqueue

variable {env : Env} {payload : ServerFrame} {priority : Priority} {channel : Option Channel}
  {sequence : Option Int} {c c' : Connection}

/-- The connection is as `enqueue` returns it, and as it was if `enqueue` raises. -/
theorem run_enqueueBody :
    (enqueueBody env payload priority channel sequence).run c =
      match c.enqueue env payload priority channel sequence with
      | .ok c' => .ok () c'
      | .error e => .error e c := by
  unfold enqueue enqueueBody
  by_cases h : c.overLimit env (env.wireSize payload) = true
  · cases priority <;> simp [h, put]
  · simp [h, put]

/-- The test, as the code writes it. -/
theorem overLimit_iff {size : Nat} : c.overLimit env size = true ↔
    env.settings.connectionQueueMaxMessages ≤ c.queue.length ∨
      (env.settings.connectionQueueMaxBytes : Int) < c.queueBytes + size := by
  simp [overLimit]

end Enqueue

/-! ## 2. Accounting -/

/-- The bytes of some frames. -/
def bytesOf (l : List QueuedMessage) : Nat := (l.map QueuedMessage.sizeBytes).sum

/-- The frames the bounds are for. -/
def flowControlled (l : List QueuedMessage) : List QueuedMessage :=
  l.filter (fun item => decide (item.priority ≠ .high))

theorem bytesOf_append (l l' : List QueuedMessage) : bytesOf (l ++ l') = bytesOf l + bytesOf l' := by
  simp [bytesOf]

theorem bytesOf_cons (item : QueuedMessage) (l : List QueuedMessage) :
    bytesOf (item :: l) = item.sizeBytes + bytesOf l := by
  simp [bytesOf]

theorem bytesOf_sublist {l l' : List QueuedMessage} (h : l.Sublist l') : bytesOf l ≤ bytesOf l' :=
  (h.map _).sum_le_sum (fun _ _ => Nat.zero_le _)

theorem flowControlled_high {item : QueuedMessage} (h : item.priority = .high)
    (l : List QueuedMessage) : flowControlled (l ++ [item]) = flowControlled l := by
  simp [flowControlled, h]

/-- The account is right, and the flow-controlled part of the queue is within the bounds. -/
structure Bounded (env : Env) (c : Connection) : Prop where
  account : c.queueBytes = bytesOf c.queue
  count : (flowControlled c.queue).length ≤ env.settings.connectionQueueMaxMessages
  bytes : bytesOf (flowControlled c.queue) ≤ env.settings.connectionQueueMaxBytes

namespace Bounded

variable {env : Env} {c c' : Connection} {item : QueuedMessage}

/-- The bounds only read the queue and its account. -/
theorem congr (h : Bounded env c) (hq : c'.queue = c.queue) (hb : c'.queueBytes = c.queueBytes) :
    Bounded env c' :=
  ⟨by rw [hb, hq]; exact h.account, by rw [hq]; exact h.count, by rw [hq]; exact h.bytes⟩

theorem account_put (h : Bounded env c) (item : QueuedMessage) :
    (c.put item).queueBytes = bytesOf (c.put item).queue := by
  rw [put_queue, bytesOf_append, Nat.cast_add, ← h.account]
  simp [put, bytesOf]

/-- A HIGH frame goes into the queue and not into the bounds. -/
theorem put_high (h : Bounded env c) (hitem : item.priority = .high) : Bounded env (c.put item) := by
  refine ⟨h.account_put item, ?_, ?_⟩
  · rw [put_queue, flowControlled_high hitem]
    exact h.count
  · rw [put_queue, flowControlled_high hitem]
    exact h.bytes

/-- A frame that passes the test leaves the whole queue within the bounds, HIGH frames included. -/
theorem put_within (h : Bounded env c) (hfit : c.overLimit env item.sizeBytes = false) :
    Bounded env (c.put item) := by
  have hnot : ¬ (env.settings.connectionQueueMaxMessages ≤ c.queue.length ∨
      (env.settings.connectionQueueMaxBytes : Int) < c.queueBytes + item.sizeBytes) := by
    rw [← overLimit_iff, hfit]
    simp
  have hsub : (flowControlled (c.put item).queue).Sublist (c.put item).queue := List.filter_sublist
  refine ⟨h.account_put item, hsub.length_le.trans ?_, (bytesOf_sublist hsub).trans ?_⟩
  · rw [put_queue, List.length_append, List.length_singleton]
    omega
  · rw [put_queue, bytesOf_append, bytesOf_cons]
    have := h.account
    simp only [bytesOf, List.map_nil, List.sum_nil] at this ⊢
    omega

/-- The sender takes the frame in front off the queue and off the account. -/
theorem dequeue (h : Bounded env c) {rest : List QueuedMessage} (hq : c.queue = item :: rest)
    (hrest : c'.queue = rest) (hb : c'.queueBytes = c.queueBytes - item.sizeBytes) :
    Bounded env c' := by
  have hsub : (flowControlled rest).Sublist (flowControlled c.queue) := by
    rw [hq]
    exact (List.sublist_cons_self item rest).filter _
  refine ⟨?_, ?_, ?_⟩
  · rw [hb, h.account, hq, bytesOf_cons, hrest]
    push_cast
    ring
  · rw [hrest]
    exact hsub.length_le.trans h.count
  · rw [hrest]
    exact (bytesOf_sublist hsub).trans h.bytes

theorem waitForWindow (h : Bounded env c) (item : QueuedMessage) :
    Bounded env (c.waitForWindow env item) := by
  rcases waitForWindow_cases env c item with ⟨-, heq⟩ | ⟨-, heq⟩
  · rw [heq]
    exact h.congr rfl rfl
  · rw [heq, release]
    split <;> exact h.congr rfl rfl

theorem senderStep (h : Bounded env c) (hs : c.senderStep env = some c') : Bounded env c' := by
  rcases senderStep_cases hs with
    ⟨item, rest, -, hq, ⟨-, rfl⟩ | ⟨-, rfl⟩⟩ | ⟨item, -, -, rfl⟩ | ⟨item, -, rfl⟩
  · have hd : Bounded env { c with queue := rest, queueBytes := c.queueBytes - item.sizeBytes } :=
      h.dequeue hq rfl rfl
    exact hd.waitForWindow item
  · exact h.dequeue hq rfl rfl
  · exact h.waitForWindow item
  · rw [senderLoop]
    split <;> exact h.congr rfl rfl

/-- One step, whichever task takes it. -/
theorem step (h : Bounded env c) (a : ConnAct) : Bounded env (c.step env a) := by
  cases a with
  | enqueue payload priority channel sequence =>
    rw [Connection.step]
    split
    · rename_i c' henq
      rcases enqueue_ok henq with ⟨-, rfl⟩ | ⟨rfl | hfit, rfl⟩
      · exact h.congr rfl rfl
      · exact h.put_high rfl
      · exact h.put_within hfit
    · exact h
  | sender =>
    rw [Connection.step]
    cases hs : c.senderStep env with
    | none => exact h
    | some c' => exact h.senderStep hs
  | ack channel sequence => exact h.congr rfl rfl
  | setState state => exact h.congr rfl rfl
  | sendFails =>
    rw [Connection.step, sendFails]
    split
    · exact h.congr rfl rfl
    · exact h
  | cancelSender => exact h.congr rfl rfl

end Bounded

theorem Reaches.bounded {env : Env} {c : Connection} (h : Reaches env c) : Bounded env c := by
  obtain ⟨connectionId, sessionId, tenantId, acts, rfl⟩ := h
  exact runAll_invariant' (fun _ a hc => hc.step a) acts _ ⟨rfl, Nat.zero_le _, Nat.zero_le _⟩

end Connection

open Connection

/-- **The outbound queue over every run.**  `_queue_bytes` is the bytes of the queued frames; those
that are not HIGH are within both bounds; a NORMAL frame is refused exactly if one of the bounds is
reached, and then nothing has changed; a LOW one is dropped and counted instead; a HIGH one is
accepted always. -/
theorem queue_bounded (env : Env) (connectionId : ConnId) (sessionId tenantId : String)
    (acts : List ConnAct) :
    let c := runAll (step env) (fresh connectionId sessionId tenantId) acts
    c.queueBytes = bytesOf c.queue ∧
    (flowControlled c.queue).length ≤ env.settings.connectionQueueMaxMessages ∧
    bytesOf (flowControlled c.queue) ≤ env.settings.connectionQueueMaxBytes ∧
    ∀ payload channel sequence,
      let size := env.wireSize payload
      let full := env.settings.connectionQueueMaxMessages ≤ c.queue.length ∨
        (env.settings.connectionQueueMaxBytes : Int) < c.queueBytes + size
      (∀ e c', (enqueueBody env payload .normal channel sequence).run c = .error e c' ↔
        full ∧ e = .slowConsumer ∧ c' = c) ∧
      (∀ c', (enqueueBody env payload .normal channel sequence).run c = .ok () c' ↔
        ¬ full ∧ c' = c.put ⟨payload, size, .normal, channel, sequence⟩) ∧
      (enqueueBody env payload .low channel sequence).run c = .ok ()
        (if full then { c with messagesDropped := c.messagesDropped + 1 }
          else c.put ⟨payload, size, .low, channel, sequence⟩) ∧
      (enqueueBody env payload .high channel sequence).run c = .ok ()
        (c.put ⟨payload, size, .high, channel, sequence⟩) := by
  intro c
  have hb : Bounded env c := Reaches.bounded ⟨connectionId, sessionId, tenantId, acts, rfl⟩
  refine ⟨hb.account, hb.count, hb.bytes, fun payload channel sequence => ?_⟩
  intro size full
  have hfull : c.overLimit env size = true ↔ full := overLimit_iff
  simp only [run_enqueueBody, enqueue]
  by_cases h : full
  · have hover := hfull.mpr h
    refine ⟨fun e c' => ?_, fun c' => ?_, ?_, ?_⟩
    · simp [size, hover, h, eq_comm]
    · simp [size, hover, h]
    · simp [size, hover, h]
    · simp [size, hover]
  · have hover : c.overLimit env size = false := by simpa using fun hc => h (hfull.mp hc)
    refine ⟨fun e c' => ?_, fun c' => ?_, ?_, ?_⟩
    · simp [size, hover, h]
    · simp [size, hover, h, eq_comm]
    · simp [size, hover, h]
    · simp [size, hover]

end Relay
