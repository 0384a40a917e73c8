/-
# The wake-up of the sender, with the event as asyncio has it

`Connection` keeps of `_window_event` only its flag, and lets a parked sender run when the flag is
up.  In asyncio a parked task is run when its future is resolved, and `set()` on an event that is
already set resolves nothing; so a flag that is up at the wrong time could leave the task parked for
good.  Here the connection has the event with its futures (`LiveConnection`), and the sender is
resumed through its future.

The flag is enough after all (`Synced`): while the sender is parked it is the only waiter, and its
future is resolved iff the flag is up.  For `_wait_for_window` lowers the flag right before it
suspends, and nobody else lowers it.  So every run of the detailed connection is a run of
`Connection.step` (`flat_step`, `reaches_flat`), and the invariant of `Relay.Sender` carries over.

* `sender_never_misses_wakeup`: a sender parked with the event not set has a full window, and an ACK
  that makes room lets the sender through the window, whatever else happens before it runs.
-/
import Mathlib
import Relay.Lib.AsyncEvent
import Relay.Sender

namespace Relay

/-! ## 1. The connection with its event -/

/-- A connection and its `_window_event`.  Of `conn`, the flag `windowEvent` is not used. -/
structure LiveConnection where
  conn : Connection
  event : AsyncEvent Unit

namespace LiveConnection

/-- `Connection.on_ack`. -/
def onAck (env : Env) (channel : Channel) (sequence : Int) (s : LiveConnection) : LiveConnection :=
  let kept := s.conn.inflight.filter
    (fun e => !(decide (e.1 = channel) && decide (e.2 ≤ sequence)))
  { conn := { s.conn with inflight := kept }
    event := if kept.length < env.settings.maxInflightMessages then s.event.set else s.event }

/-- `_wait_for_window` from its loop test on: `clear()` and `wait()`, or on to the send. -/
def waitForWindow (env : Env) (s : LiveConnection) (item : QueuedMessage) : LiveConnection :=
  if env.settings.maxInflightMessages ≤ s.conn.inflight.length then
    { conn := { s.conn with sender := .waiting item }
      event := (s.event.clear.wait ()).1 }
  else { s with conn := s.conn.release item }

/-- One resumption of `run_sender`, to its next await. -/
def senderStep (env : Env) (s : LiveConnection) : Option LiveConnection :=
  match s.conn.sender with
  | .getting =>
    match s.conn.queue with
    | [] => none
    | item :: rest =>
      let conn := { s.conn with queue := rest, queueBytes := s.conn.queueBytes - item.sizeBytes }
      if item.priority = .normal then some (waitForWindow env { s with conn := conn } item)
      else some { s with conn := { conn with sender := .sending item } }
  | .waiting item => (s.event.resume ()).map (fun event => waitForWindow env ⟨s.conn, event⟩ item)
  | .sending item =>
    some { s with conn := { s.conn with wire := s.conn.wire ++ [item.payload] }.senderLoop }
  | .exited => none

/-- The effect of one call, or of one resumption of the sender. -/
def step (env : Env) (s : LiveConnection) : ConnAct → LiveConnection
  | .ack channel sequence => s.onAck env channel sequence
  | .sender => (s.senderStep env).getD s
  -- the exception leaves `wait()` through its `finally`
  | .cancelSender => ⟨s.conn.cancelSender, s.event.forget ()⟩
  | act => { s with conn := s.conn.step env act }

/-- As `__post_init__` leaves it. -/
def fresh (connectionId : ConnId) (sessionId tenantId : String) : LiveConnection :=
  ⟨Connection.fresh connectionId sessionId tenantId, AsyncEvent.raised⟩

/-! ## 2. The flag is enough -/

/-- The waiters there should be, by where the sender is: itself, if it is parked. -/
def waitersOf (sender : Sender) (flag : Bool) : List (Unit × Bool) :=
  match sender with
  | .waiting _ => [((), flag)]
  | _ => []

/-- A parked sender is the only waiter and its future is resolved iff the flag is up; otherwise
there is no waiter. -/
def Synced (s : LiveConnection) : Prop :=
  s.event.waiters = waitersOf s.conn.sender s.event.value

/-- The connection with the flag alone. -/
def flat (s : LiveConnection) : Connection := { s.conn with windowEvent := s.event.value }

section Steps

variable {env : Env} {s : LiveConnection}

theorem waitersOf_release (conn : Connection) (item : QueuedMessage) (flag : Bool) :
    waitersOf (conn.release item).sender flag = [] := by
  unfold Connection.release
  split <;> rfl

theorem waitersOf_senderLoop (conn : Connection) (flag : Bool) :
    waitersOf conn.senderLoop.sender flag = [] := by
  unfold Connection.senderLoop
  split <;> rfl

theorem map_waitersOf (sender : Sender) (flag : Bool) :
    (waitersOf sender flag).map (fun w => (w.1, true)) = waitersOf sender true := by
  cases sender <;> rfl

theorem filter_waitersOf (sender : Sender) (flag : Bool) :
    (waitersOf sender flag).filter (fun w => !decide (w.1 = ())) = [] := by
  cases sender <;> rfl

/-- After an ACK. -/
theorem synced_onAck (h : s.Synced) (channel : Channel) (sequence : Int) :
    (s.onAck env channel sequence).Synced := by
  unfold onAck
  simp only
  split
  · -- the event is set: the future of a parked sender is resolved
    show s.event.set.waiters = waitersOf s.conn.sender s.event.set.value
    rw [AsyncEvent.waiters_set, AsyncEvent.set_value, h, map_waitersOf]
  · exact h

theorem flat_onAck (channel : Channel) (sequence : Int) :
    (s.onAck env channel sequence).flat = (s.flat.onAck env channel sequence).2 := by
  unfold onAck Connection.onAck flat
  simp only
  split
  · rw [AsyncEvent.set_value]
  · rfl

/-- With no waiter left, the window test makes the sender the only one or lets it pass. -/
theorem synced_waitForWindow (h : s.event.waiters = []) (item : QueuedMessage) :
    (s.waitForWindow env item).Synced := by
  unfold waitForWindow
  split
  · obtain ⟨-, hv, hw⟩ := s.event.wait_clear ()
    show (s.event.clear.wait ()).1.waiters = waitersOf (.waiting item) (s.event.clear.wait ()).1.value
    rw [hw, hv, h]
    rfl
  · show s.event.waiters = waitersOf (s.conn.release item).sender s.event.value
    rw [h, waitersOf_release]

theorem flat_waitForWindow (item : QueuedMessage) :
    (s.waitForWindow env item).flat = s.flat.waitForWindow env item := by
  unfold waitForWindow Connection.waitForWindow
  split
  · rename_i hfull
    rw [if_pos (show _ ≤ s.flat.inflight.length from hfull)]
    rfl
  · rename_i hroom
    rw [if_neg (show ¬ _ ≤ s.flat.inflight.length from hroom)]
    unfold Connection.release flat Connection.open_
    simp only
    split <;> rfl

/-- A parked sender can be resumed iff the flag is up. -/
theorem Synced.resume_cases (h : s.Synced) {item : QueuedMessage}
    (hs : s.conn.sender = .waiting item) :
    (s.event.value = true ∧
      ∃ e, s.event.resume () = some e ∧ e.waiters = [] ∧ e.value = true) ∨
    (s.event.value = false ∧ s.event.resume () = none) := by
  unfold Synced at h
  rw [hs] at h
  unfold AsyncEvent.resume
  cases hv : s.event.value with
  | true =>
    refine Or.inl ⟨rfl, s.event.forget (), ?_, ?_, hv⟩
    · rw [if_pos (by rw [h, hv]; exact List.mem_singleton.mpr rfl)]
    · show s.event.waiters.filter _ = []
      rw [h]
      exact filter_waitersOf _ _
  | false =>
    refine Or.inr ⟨rfl, ?_⟩
    rw [if_neg]
    rw [h, hv]
    simp [waitersOf]

/-- **One resumption of the sender** is one resumption of the connection with the flag alone. -/
theorem flat_senderStep (h : s.Synced) : (s.senderStep env).map flat = s.flat.senderStep env := by
  unfold senderStep Connection.senderStep
  have hsender : s.flat.sender = s.conn.sender := rfl
  have hqueue : s.flat.queue = s.conn.queue := rfl
  rw [hsender, hqueue]
  cases hs : s.conn.sender with
  | getting =>
    cases s.conn.queue with
    | nil => rfl
    | cons item rest =>
      simp only
      split
      · exact congrArg some (flat_waitForWindow item)
      · rfl
  | waiting item =>
    have hflag : s.flat.windowEvent = s.event.value := rfl
    simp only
    rw [hflag]
    rcases h.resume_cases hs with ⟨hv, e, he, -, hev⟩ | ⟨hv, he⟩
    · rw [he, hv, if_pos rfl]
      simp only [Option.map_some]
      rw [flat_waitForWindow]
      simp only [flat, hev, hv]
    · rw [he, hv]
      rfl
  | sending item =>
    simp only [Option.map_some]
    unfold Connection.senderLoop flat Connection.open_
    simp only
    split <;> rfl
  | exited => rfl

theorem synced_senderStep (h : s.Synced) {s' : LiveConnection} (hstep : s.senderStep env = some s') :
    s'.Synced := by
  have hw : s.event.waiters = waitersOf s.conn.sender s.event.value := h
  unfold senderStep at hstep
  cases hs : s.conn.sender with
  | getting =>
    rw [hs] at hw hstep
    cases hq : s.conn.queue with
    | nil => rw [hq] at hstep; nomatch hstep
    | cons item rest =>
      rw [hq] at hstep
      simp only at hstep
      split at hstep
      · cases hstep
        refine synced_waitForWindow ?_ item
        exact hw
      · cases hstep
        exact hw
  | waiting item =>
    rw [hs] at hstep
    rcases h.resume_cases hs with ⟨-, e, he, hnone, -⟩ | ⟨-, he⟩
    · rw [he] at hstep
      cases hstep
      exact synced_waitForWindow hnone item
    · rw [he] at hstep
      nomatch hstep
  | sending item =>
    rw [hs] at hw hstep
    cases hstep
    show s.event.waiters = waitersOf (Connection.senderLoop _).sender _
    rw [hw, waitersOf_senderLoop]
    rfl
  | exited => rw [hs] at hstep; nomatch hstep

/-- The calls that leave the event alone also leave the sender parked, or not parked. -/
theorem waitersOf_step {conn : Connection} {act : ConnAct} (flag : Bool)
    (hack : ∀ channel sequence, act ≠ .ack channel sequence) (hsender : act ≠ .sender)
    (hcancel : act ≠ .cancelSender) :
    waitersOf (conn.step env act).sender flag = waitersOf conn.sender flag := by
  cases act with
  | enqueue payload priority channel sequence =>
    simp only [Connection.step]
    split
    · rename_i conn' h
      rcases Connection.enqueue_cases h with ⟨rfl, -⟩ | rfl <;> rfl
    · rfl
  | sender => exact absurd rfl hsender
  | ack channel sequence => exact absurd rfl (hack channel sequence)
  | setState state => rfl
  | sendFails =>
    simp only [Connection.step, Connection.sendFails]
    split
    · rename_i hs
      rw [hs]
      rfl
    · rfl
  | cancelSender => exact absurd rfl hcancel

theorem flat_enqueue (payload : ServerFrame) (priority : Priority) (channel : Option Channel)
    (sequence : Option Int) :
    flat ⟨s.conn.step env (.enqueue payload priority channel sequence), s.event⟩ =
      s.flat.step env (.enqueue payload priority channel sequence) := by
  have hover : s.flat.overLimit env (env.wireSize payload) =
      s.conn.overLimit env (env.wireSize payload) := rfl
  simp only [Connection.step, Connection.enqueue]
  rw [hover]
  cases s.conn.overLimit env (env.wireSize payload) with
  | false => rfl
  | true => cases priority <;> rfl

theorem flat_sendFails :
    flat ⟨s.conn.sendFails, s.event⟩ = s.flat.sendFails := by
  unfold Connection.sendFails flat
  simp only
  split <;> rfl

theorem synced_step (h : s.Synced) (act : ConnAct) : (s.step env act).Synced := by
  cases act with
  | sender =>
    cases hstep : s.senderStep env with
    | none => simp only [step, hstep, Option.getD_none]; exact h
    | some s' => simp only [step, hstep, Option.getD_some]; exact synced_senderStep h hstep
  | ack channel sequence => exact synced_onAck h channel sequence
  | cancelSender =>
    show s.event.waiters.filter _ = []
    rw [h]
    exact filter_waitersOf _ _
  | enqueue payload priority channel sequence =>
    exact h.trans (waitersOf_step _ (by simp) (by simp) (by simp)).symm
  | setState state => exact h
  | sendFails => exact h.trans (waitersOf_step _ (by simp) (by simp) (by simp)).symm

/-- **One step is a step of the connection with the flag alone.** -/
theorem flat_step (h : s.Synced) (act : ConnAct) :
    (s.step env act).flat = s.flat.step env act := by
  cases act with
  | sender =>
    simp only [step, Connection.step]
    rw [← flat_senderStep h]
    cases s.senderStep env <;> rfl
  | ack channel sequence => exact flat_onAck channel sequence
  | cancelSender => rfl
  | enqueue payload priority channel sequence => exact flat_enqueue payload priority channel sequence
  | setState state => rfl
  | sendFails => exact flat_sendFails

end Steps

/-! ## 3. Runs -/

/-- A connection after any run. -/
def after (env : Env) (connectionId : ConnId) (sessionId tenantId : String) (acts : List ConnAct) :
    LiveConnection :=
  runAll (step env) (fresh connectionId sessionId tenantId) acts

section Runs

variable (env : Env) (connectionId : ConnId) (sessionId tenantId : String)

theorem synced_after (acts : List ConnAct) :
    (after env connectionId sessionId tenantId acts).Synced := by
  have hstep : ∀ (s : LiveConnection) (act : ConnAct), s.Synced → (s.step env act).Synced :=
    fun _ act h => synced_step h act
  exact runAll_invariant' hstep acts _ rfl

/-- Every run is a run of the connection with the flag alone. -/
theorem reaches_flat (acts : List ConnAct) :
    Connection.Reaches env (after env connectionId sessionId tenantId acts).flat := by
  refine ⟨connectionId, sessionId, tenantId, acts, ?_⟩
  have hrun : ∀ s : LiveConnection, s.Synced →
      (runAll (step env) s acts).flat = runAll (Connection.step env) s.flat acts := by
    induction acts with
    | nil => exact fun s _ => rfl
    | cons act acts ih =>
      intro s h
      have hrest := ih (s.step env act) (synced_step h act)
      rw [flat_step h] at hrest
      exact hrest
  exact hrun (fresh connectionId sessionId tenantId) rfl

end Runs

/-- The sender is parked with the item, its event is set and the window has room. -/
structure Roused (env : Env) (item : QueuedMessage) (s : LiveConnection) : Prop where
  synced : s.Synced
  parked : s.conn.sender = .waiting item
  flag : s.event.value = true
  room : s.conn.inflight.length < env.settings.maxInflightMessages

/-- An ACK that makes room rouses a parked sender. -/
theorem roused_onAck {env : Env} {item : QueuedMessage} {s : LiveConnection} (h : s.Synced)
    (hs : s.conn.sender = .waiting item) {channel : Channel} {sequence : Int}
    (hroom : (s.onAck env channel sequence).conn.inflight.length <
      env.settings.maxInflightMessages) : Roused env item (s.onAck env channel sequence) := by
  refine ⟨synced_onAck h channel sequence, hs, ?_, hroom⟩
  have hset : (s.onAck env channel sequence).event = s.event.set := if_pos hroom
  rw [hset, AsyncEvent.set_value]

/-- Only the sender itself ends this, or its cancellation. -/
theorem Roused.step {env : Env} {item : QueuedMessage} {s : LiveConnection} (h : Roused env item s)
    {act : ConnAct} (hsender : act ≠ .sender) (hcancel : act ≠ .cancelSender) :
    Roused env item (s.step env act) := by
  cases act with
  | sender => exact absurd rfl hsender
  | cancelSender => exact absurd rfl hcancel
  | ack channel sequence =>
    refine roused_onAck h.synced h.parked ?_
    exact Nat.lt_of_le_of_lt (List.length_filter_le _ _) h.room
  | enqueue payload priority channel sequence =>
    refine ⟨synced_step h.synced _, ?_, h.flag, ?_⟩
    · simp only [LiveConnection.step, Connection.step]
      split
      · rename_i conn' he
        rcases Connection.enqueue_cases he with ⟨rfl, -⟩ | rfl <;> exact h.parked
      · exact h.parked
    · simp only [LiveConnection.step, Connection.step]
      split
      · rename_i conn' he
        rcases Connection.enqueue_cases he with ⟨rfl, -⟩ | rfl <;> exact h.room
      · exact h.room
  | setState state => exact ⟨synced_step h.synced _, h.parked, h.flag, h.room⟩
  | sendFails =>
    have hself : s.conn.sendFails = s.conn := by
      unfold Connection.sendFails
      rw [h.parked]
    refine ⟨synced_step h.synced _, ?_, h.flag, ?_⟩
    · simp only [LiveConnection.step, Connection.step, hself]
      exact h.parked
    · simp only [LiveConnection.step, Connection.step, hself]
      exact h.room

/-- A roused sender gets through the window when it runs. -/
theorem Roused.senderStep {env : Env} {item : QueuedMessage} {s : LiveConnection}
    (h : Roused env item s) :
    ∃ s', s.senderStep env = some s' ∧ s'.conn = s.conn.release item := by
  rcases h.synced.resume_cases h.parked with ⟨-, e, he, -, -⟩ | ⟨hv, -⟩
  · refine ⟨⟨s.conn.release item, e⟩, ?_, rfl⟩
    unfold LiveConnection.senderStep
    rw [h.parked]
    simp only
    rw [he, Option.map_some, waitForWindow, if_neg (Nat.not_le.mpr h.room)]
  · rw [h.flag] at hv
    nomatch hv

/-- **The sender never misses a wake-up.**  After any run, if the sender is parked in
`_wait_for_window` then the window is full unless the event is set.  An ACK that leaves room makes it
runnable, and it stays so whatever is called before it runs: it then finds its future resolved and
room in the window, and goes on to the write (or returns, if the connection has been closed). -/
theorem sender_never_misses_wakeup (env : Env) (connectionId : ConnId) (sessionId tenantId : String)
    (acts : List ConnAct) (item : QueuedMessage)
    (hparked : (after env connectionId sessionId tenantId acts).conn.sender = .waiting item) :
    let s := after env connectionId sessionId tenantId acts
    (s.event.value = false → env.settings.maxInflightMessages ≤ s.conn.inflight.length) ∧
    ∀ channel sequence,
      (s.step env (.ack channel sequence)).conn.inflight.length < env.settings.maxInflightMessages →
      ∀ later : List ConnAct, (∀ act ∈ later, act ≠ .sender ∧ act ≠ .cancelSender) →
        let s' := runAll (step env) (s.step env (.ack channel sequence)) later
        ∃ s'', s'.senderStep env = some s'' ∧ s''.conn = s'.conn.release item := by
  intro s
  have hsync : s.Synced := synced_after env connectionId sessionId tenantId acts
  refine ⟨?_, ?_⟩
  · intro hflag
    exact ((reaches_flat env connectionId sessionId tenantId acts).parked item hparked).2 hflag
  · intro channel sequence hroom later hlater s'
    have hstep : ∀ (x : LiveConnection) (act : ConnAct), Roused env item x →
        act ≠ .sender ∧ act ≠ .cancelSender → Roused env item (x.step env act) :=
      fun _ _ h hact => h.step hact.1 hact.2
    have hroused : Roused env item s' :=
      runAll_invariant hstep later _ (roused_onAck hsync hparked hroom)
        (along_of_forall (P := fun act => act ≠ .sender ∧ act ≠ .cancelSender) later hlater)
    exact hroused.senderStep

open Connection in
/-- Two messages come in; the sender writes the first and takes up the second. -/
def parkingRun : List ConnAct := [sampleMessage 1, sampleMessage 2, .sender, .sender, .sender]

/-- What the run leads to with a window of one. -/
def sampleParked : LiveConnection :=
  after (.plain { maxInflightMessages := 1 }) "conn-1" "s" "a" parkingRun

/-- The ACK of the first message and a PING come in. -/
def sampleRoused : LiveConnection :=
  runAll (step (.plain { maxInflightMessages := 1 }))
    (sampleParked.step (.plain { maxInflightMessages := 1 }) (.ack "t-a:c" 1)) [Connection.samplePing]

open Connection in
theorem sampleParked_waits : ∃ item, sampleParked.conn.sender = .waiting item := by
  simp [sampleParked, parkingRun, after, runAll, step, sampleMessage, Connection.step, enqueue,
    overLimit, fresh, Connection.fresh, Env.plain, put, senderStep, waitForWindow, release, open_,
    senderLoop, QueuedMessage.slot]

/-- The sender is parked with a full window; after the ACK and the PING it runs and starts on the
second message. -/
theorem sender_roused_by_ack :
    1 ≤ sampleParked.conn.inflight.length ∧
    ∃ item s', sampleParked.conn.sender = .waiting item ∧
      sampleRoused.senderStep (.plain { maxInflightMessages := 1 }) = some s' ∧
      s'.conn = sampleRoused.conn.release item := by
  obtain ⟨item, hitem⟩ := sampleParked_waits
  have hflag : sampleParked.event.value = false := by decide +kernel
  have hroom : (sampleParked.step (.plain { maxInflightMessages := 1 })
      (.ack "t-a:c" 1)).conn.inflight = [] := by decide +kernel
  unfold sampleRoused
  unfold sampleParked at hitem hflag hroom ⊢
  obtain ⟨hfull, hwake⟩ := sender_never_misses_wakeup _ _ _ _ _ item hitem
  obtain ⟨s', hstep, hconn⟩ := hwake "t-a:c" 1 (by rw [hroom]; decide) [Connection.samplePing]
    (by simp [Connection.samplePing])
  exact ⟨hfull hflag, item, s', hitem, hstep, hconn⟩

end LiveConnection

end Relay
