/-
# What a connection has sent, and what it waits for

Two accounts of one connection, for every run of `enqueue`, the sender, `on_ack`, changes of state,
failing writes and cancellation:

* the queue is a FIFO (`wire_fifo`): what the sender has written is a prefix of what `enqueue`
  accepted, and as long as the sender runs the rest is the item it holds and the queue;
* the window is exact (`inflight_exact`): `_inflight` is what the history of the connection leaves
  unacknowledged, and never longer than `max_inflight_messages`.

The sender takes an item off the queue before it knows whether it may send it.  It can then park,
find the connection closed, or fail on the write, so both accounts are invariants of the sender's
phases and not of the queue alone.
-/
import Mathlib
import Relay.Sender
import Relay.Lib.Window

namespace Relay

namespace Connection

/-! ## 1. The queue is a FIFO -/

/-- What was accepted is what was written followed by what is still to be written, while the sender
runs; afterwards what was written stays a prefix. -/
structure Fifo (c : Connection) : Prop where
  sent : c.wire <+: c.accepted.map QueuedMessage.payload
  rest : c.sender ≠ .exited →
    c.accepted.map QueuedMessage.payload = c.wire ++ c.pending.map QueuedMessage.payload

theorem fifo_of_pending {c : Connection}
    (h : c.accepted.map QueuedMessage.payload = c.wire ++ c.pending.map QueuedMessage.payload) :
    c.Fifo :=
  ⟨by rw [h]; exact List.prefix_append _ _, fun _ => h⟩

theorem fifo_of_exited {c : Connection} (hs : c.sender = .exited)
    (h : c.wire <+: c.accepted.map QueuedMessage.payload) : c.Fifo :=
  ⟨h, fun hne => absurd hs hne⟩

theorem fifo_put {c : Connection} (h : c.Fifo) (item : QueuedMessage) : (c.put item).Fifo := by
  refine ⟨?_, fun hs => ?_⟩
  · rw [put_wire, put_accepted, List.map_append]
    exact h.sent.trans (List.prefix_append _ _)
  · rw [put_accepted, put_wire, pending_put, List.map_append, h.rest hs, List.map_append,
      List.append_assoc]

/-- The item `x` has been dequeued and goes through the window test: it is held, or the sender
leaves and the item is dropped. -/
theorem fifo_waitForWindow (env : Env) {c : Connection} {x : QueuedMessage}
    (h : c.accepted.map QueuedMessage.payload
      = c.wire ++ (x :: c.queue).map QueuedMessage.payload) : (c.waitForWindow env x).Fifo := by
  rcases waitForWindow_cases env c x with ⟨-, hw⟩ | ⟨-, hw⟩
  · rw [hw]
    exact fifo_of_pending h
  · rw [hw, release]
    split
    · exact fifo_of_pending h
    · refine fifo_of_exited rfl ?_
      show c.wire <+: c.accepted.map QueuedMessage.payload
      rw [h]
      exact List.prefix_append _ _

theorem fifo_senderStep {env : Env} {c c' : Connection} (hi : c.Fifo)
    (h : c.senderStep env = some c') : c'.Fifo := by
  rcases senderStep_cases h with
    ⟨item, rest, hs, hq, ⟨-, rfl⟩ | ⟨-, rfl⟩⟩ | ⟨item, hs, -, rfl⟩ | ⟨item, hs, rfl⟩
  -- the item leaves the queue and is held, or is dropped on the way out
  · have hr := hi.rest (by simp [hs])
    simp only [pending, held, hs, hq, List.nil_append] at hr
    exact fifo_waitForWindow env hr
  · have hr := hi.rest (by simp [hs])
    simp only [pending, held, hs, hq, List.nil_append] at hr
    exact fifo_of_pending hr
  -- the held item is tested again
  · have hr := hi.rest (by simp [hs])
    simp only [pending, held, hs, List.singleton_append] at hr
    exact fifo_waitForWindow env hr
  -- the held item is written
  · have hr := hi.rest (by simp [hs])
    simp only [pending, held, hs, List.singleton_append, List.map_cons] at hr
    unfold senderLoop
    split
    · refine fifo_of_pending ?_
      simp only [pending, held, List.nil_append, List.append_assoc, List.singleton_append]
      exact hr
    · refine fifo_of_exited rfl ?_
      refine ⟨c.queue.map QueuedMessage.payload, ?_⟩
      show c.wire ++ [item.payload] ++ _ = c.accepted.map QueuedMessage.payload
      rw [hr, List.append_assoc, List.singleton_append]

theorem fifo_step (env : Env) (c : Connection) (a : ConnAct) (hi : c.Fifo) :
    (c.step env a).Fifo := by
  cases a with
  | enqueue payload priority channel sequence =>
    simp only [step]
    split
    · rename_i c' h
      rcases enqueue_cases h with ⟨rfl, -⟩ | rfl
      · exact ⟨hi.sent, hi.rest⟩
      · exact fifo_put hi _
    · exact hi
  | sender =>
    simp only [step]
    cases h : c.senderStep env with
    | none => exact hi
    | some c' => exact fifo_senderStep hi h
  | ack channel sequence => exact ⟨hi.sent, hi.rest⟩
  | setState state => exact ⟨hi.sent, hi.rest⟩
  | sendFails =>
    simp only [step, sendFails]
    split
    · exact fifo_of_exited rfl hi.sent
    · exact hi
  | cancelSender => exact fifo_of_exited rfl hi.sent

/-- The payload a call hands over: that of an `enqueue` that neither raises nor counts the frame as
dropped. -/
def handedOver (env : Env) (c : Connection) : ConnAct → List ServerFrame
  | .enqueue payload priority channel sequence =>
    match c.enqueue env payload priority channel sequence with
    | .ok c' => if c'.messagesDropped = c.messagesDropped then [payload] else []
    | .error _ => []
  | _ => []

/-- Nothing else is accepted, and nothing of it is lost. -/
theorem accepted_step (env : Env) (c : Connection) (a : ConnAct) :
    (c.step env a).accepted.map QueuedMessage.payload
      = c.accepted.map QueuedMessage.payload ++ c.handedOver env a := by
  cases a with
  | enqueue payload priority channel sequence =>
    simp only [step, handedOver]
    cases h : c.enqueue env payload priority channel sequence with
    | error e => exact (List.append_nil _).symm
    | ok c' =>
      simp only
      rcases enqueue_cases h with ⟨rfl, -⟩ | rfl
      · rw [if_neg (by exact Nat.succ_ne_self _), List.append_nil]
      · rw [if_pos (by rfl), put_accepted, List.map_append, List.map_singleton]
  | sender => exact (congrArg _ (accepted_senderStep env c)).trans (List.append_nil _).symm
  | ack channel sequence => exact (List.append_nil _).symm
  | setState state => exact (List.append_nil _).symm
  | sendFails => exact (congrArg _ (accepted_sendFails c)).trans (List.append_nil _).symm
  | cancelSender => exact (List.append_nil _).symm

/-- **Per-connection FIFO, without loss or duplication.**  In every reachable state the payloads
accepted are those of the calls of `enqueue` that neither raised nor counted a drop, in their order,
and the payloads on the wire are a prefix of them; while the sender runs, what was accepted is what
was written, then at most one item the sender holds, then the queue. -/
theorem wire_fifo (env : Env) (connectionId : ConnId) (sessionId tenantId : String)
    (acts : List ConnAct) :
    let c := runAll (step env) (fresh connectionId sessionId tenantId) acts
    c.accepted.map QueuedMessage.payload
        = emitted (step env) (handedOver env) (fresh connectionId sessionId tenantId) acts ∧
      c.wire <+: c.accepted.map QueuedMessage.payload ∧
      (c.sender ≠ .exited → c.held.length ≤ 1 ∧
        c.accepted.map QueuedMessage.payload = c.wire ++ c.held.map QueuedMessage.payload ++
          c.queue.map QueuedMessage.payload) := by
  intro c
  have hfifo : c.Fifo := runAll_invariant' (fun s a hs => fifo_step env s a hs) acts _
    (fifo_of_pending rfl)
  have hstep : ∀ (s : Connection) (a : ConnAct) (past : List ServerFrame),
      s.accepted.map QueuedMessage.payload = past →
      (s.step env a).accepted.map QueuedMessage.payload = past ++ s.handedOver env a := by
    rintro s a past rfl
    exact accepted_step env s a
  refine ⟨emitted_history hstep acts _ [] rfl, hfifo.sent, fun hs => ⟨?_, ?_⟩⟩
  · unfold held
    split <;> simp
  · rw [hfifo.rest hs, pending, List.map_append, List.append_assoc]

/-! ## 2. The window -/

/-- `on_ack(channel, s)` acknowledges `(ch, seq)`. -/
def ackCovers (ack slot : Channel × Int) : Bool :=
  decide (slot.1 = ack.1) && decide (slot.2 ≤ ack.2)

/-- The item whose write the sender starts when it is resumed now. -/
def startsWrite (env : Env) (c : Connection) : Option QueuedMessage :=
  match c.senderStep env with
  | some c' =>
    match c'.sender with
    | .sending item => some item
    | _ => none
  | none => none

/-- The channel and the number of a NORMAL frame that has both. -/
def trackedSlot (item : QueuedMessage) : List (Channel × Int) :=
  match item.priority, item.channel, item.sequence with
  | .normal, some channel, some sequence => [(channel, sequence)]
  | _, _, _ => []

/-- What a call adds to the history of the window: a NORMAL tracked frame released to the socket,
or an ACK. -/
def windowEvents (env : Env) (c : Connection) :
    ConnAct → List (WindowEvent (Channel × Int) (Channel × Int))
  | .sender => ((c.startsWrite env).elim [] trackedSlot).map .released
  | .ack channel sequence => [.acked (channel, sequence)]
  | _ => []

/-- The history of the window along a run. -/
def windowHistory (env : Env) :
    Connection → List ConnAct → List (WindowEvent (Channel × Int) (Channel × Int))
  | _, [] => []
  | c, a :: acts => c.windowEvents env a ++ windowHistory env (c.step env a) acts

/-- The slots of a history are kept in `inflight`, and there is no more of them than the window
has. -/
def Tracks (env : Env) (h : List (WindowEvent (Channel × Int) (Channel × Int)))
    (c : Connection) : Prop :=
  c.inflight = outstanding ackCovers h ∧ c.inflight.length ≤ env.settings.maxInflightMessages

theorem length_trackedSlot (item : QueuedMessage) : (trackedSlot item).length ≤ 1 := by
  unfold trackedSlot
  split <;> simp

theorem trackedSlot_normal {item : QueuedMessage} (h : item.priority = .normal) :
    trackedSlot item = item.slot.toList := by
  unfold trackedSlot QueuedMessage.slot
  rw [h]
  cases item.channel <;> cases item.sequence <;> rfl

theorem trackedSlot_eq_nil {item : QueuedMessage} (h : item.priority ≠ .normal) :
    trackedSlot item = [] := by
  unfold trackedSlot
  split
  · rename_i hp _ _
    exact absurd hp h
  · rfl

/-- The window test: the item that starts its write takes its slot, and there was one. -/
theorem inflight_waitForWindow (env : Env) (c : Connection) {item : QueuedMessage}
    (hp : item.priority = .normal) :
    (c.waitForWindow env item).sender = .sending item ∧
        (c.waitForWindow env item).inflight = c.inflight ++ trackedSlot item ∧
        c.inflight.length < env.settings.maxInflightMessages ∨
      (∀ x, (c.waitForWindow env item).sender ≠ .sending x) ∧
        (c.waitForWindow env item).inflight = c.inflight := by
  rcases waitForWindow_cases env c item with ⟨-, hw⟩ | ⟨hlt, hw⟩
  · exact Or.inr (by rw [hw]; simp)
  · rw [hw, release]
    split
    · exact Or.inl ⟨rfl, by rw [trackedSlot_normal hp], hlt⟩
    · exact Or.inr (by simp)

/-- A resumption of the sender: a write is started and its slot is taken, with room for it, or the
slots stay as they are. -/
theorem inflight_senderStep {env : Env} {c c' : Connection} (hpark : c.Parked env)
    (h : c.senderStep env = some c') :
    (∃ item, c'.sender = .sending item ∧ c'.inflight = c.inflight ++ trackedSlot item ∧
      (trackedSlot item = [] ∨ c.inflight.length < env.settings.maxInflightMessages)) ∨
    (∀ item, c'.sender ≠ .sending item) ∧ c'.inflight = c.inflight := by
  rcases senderStep_cases h with
    ⟨item, rest, -, -, ⟨hp, rfl⟩ | ⟨hp, rfl⟩⟩ | ⟨item, hs, -, rfl⟩ | ⟨item, -, rfl⟩
  · rcases inflight_waitForWindow env _ hp with ⟨h1, h2, h3⟩ | h
    · exact Or.inl ⟨item, h1, h2, Or.inr h3⟩
    · exact Or.inr h
  · have hnil := trackedSlot_eq_nil hp
    exact Or.inl ⟨item, rfl, by rw [hnil, List.append_nil], Or.inl hnil⟩
  · rcases inflight_waitForWindow env c (hpark item hs).1 with ⟨h1, h2, h3⟩ | h
    · exact Or.inl ⟨item, h1, h2, Or.inr h3⟩
    · exact Or.inr h
  · refine Or.inr ?_
    unfold senderLoop
    split <;> simp

theorem tracks_released {env : Env} {h : List (WindowEvent (Channel × Int) (Channel × Int))}
    {c c' : Connection} (hi : Tracks env h c) {l : List (Channel × Int)}
    (hl : l.length ≤ 1) (hin : c'.inflight = c.inflight ++ l)
    (hroom : l = [] ∨ c.inflight.length < env.settings.maxInflightMessages) :
    Tracks env (h ++ l.map .released) c' := by
  match l, hl with
  | [], _ =>
    rw [List.append_nil] at hin
    simp only [Tracks, hin, List.map_nil, List.append_nil]
    exact hi
  | [slot], _ =>
    refine ⟨?_, ?_⟩
    · rw [List.map_singleton, outstanding_released, hin, hi.1]
    · have := hroom.resolve_left (by simp)
      rw [hin, List.length_append, List.length_singleton]
      omega

theorem tracks_step {env : Env} {h : List (WindowEvent (Channel × Int) (Channel × Int))}
    {c : Connection} (hpark : c.Parked env) (hi : Tracks env h c) (a : ConnAct) :
    Tracks env (h ++ c.windowEvents env a) (c.step env a) := by
  cases a with
  | enqueue payload priority channel sequence =>
    have hin : (c.step env (.enqueue payload priority channel sequence)).inflight = c.inflight := by
      simp only [step]
      split
      · rename_i c' he
        rcases enqueue_cases he with ⟨rfl, -⟩ | rfl <;> rfl
      · rfl
    simp only [Tracks, hin, windowEvents, List.append_nil]
    exact hi
  | sender =>
    simp only [step, windowEvents, startsWrite]
    cases hstep : c.senderStep env with
    | none => simpa using hi
    | some c' =>
      simp only [Option.getD_some]
      rcases inflight_senderStep hpark hstep with ⟨item, hs, hin, hroom⟩ | ⟨hs, hin⟩
      · rw [hs]
        exact tracks_released hi (length_trackedSlot item) hin hroom
      · have hnone : (match c'.sender with
            | .sending item => some item
            | _ => none) = (none : Option QueuedMessage) := by
          split
          · rename_i item hitem
            exact absurd hitem (hs item)
          · rfl
        rw [hnone]
        simp only [Tracks, hin, Option.elim_none, List.map_nil, List.append_nil]
        exact hi
  | ack channel sequence =>
    refine ⟨?_, ?_⟩
    · rw [windowEvents, outstanding_acked, ← hi.1]
      rfl
    · exact (List.length_filter_le _ _).trans hi.2
  | setState state => simpa [Tracks, windowEvents, step] using hi
  | sendFails =>
    have hin : (c.step env .sendFails).inflight = c.inflight := by
      simp only [step, sendFails]
      split <;> rfl
    simp only [Tracks, hin, windowEvents, List.append_nil]
    exact hi
  | cancelSender => simpa [Tracks, windowEvents, step, cancelSender] using hi

/-- Along a run, the history of the run is added to the history before it. -/
theorem tracks_run {env : Env} : ∀ (acts : List ConnAct) {c : Connection}
    {h : List (WindowEvent (Channel × Int) (Channel × Int))}, c.Parked env → Tracks env h c →
      Tracks env (h ++ windowHistory env c acts) (runAll (step env) c acts)
  | [], c, h, _, hi => by simpa [windowHistory] using hi
  | a :: acts, c, h, hpark, hi => by
    rw [runAll_cons, windowHistory, ← List.append_assoc]
    exact tracks_run acts (parked_step c a hpark) (tracks_step hpark hi a)

/-- **The flow-control window is exact and bounded.**  In every reachable state `_inflight` is the
list, in send order, of the slots of the NORMAL tracked frames released to the socket that no later
ACK of their channel at or above their number covers, and there are at most
`max_inflight_messages` of them. -/
theorem inflight_exact (env : Env) (connectionId : ConnId) (sessionId tenantId : String)
    (acts : List ConnAct) :
    let c := runAll (step env) (fresh connectionId sessionId tenantId) acts
    c.inflight = outstanding ackCovers
        (windowHistory env (fresh connectionId sessionId tenantId) acts) ∧
      c.inflight.length ≤ env.settings.maxInflightMessages := by
  have hstart : Tracks env [] (fresh connectionId sessionId tenantId) := ⟨rfl, Nat.zero_le _⟩
  have hpark : (fresh connectionId sessionId tenantId).Parked env :=
    parked_of_not_waiting (by simp [fresh])
  exact tracks_run acts hpark hstart

end Connection

end Relay
