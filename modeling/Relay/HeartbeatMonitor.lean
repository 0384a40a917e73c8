/-
# The heartbeat of a connection, by the clock

`apps/gateway/heartbeat/monitor.py` (`run_heartbeat`) and its callback `_on_dead_connection`
(`websocket/handler.py`).  The task sleeps for the interval, puts a PING in the connection's queue,
and then looks every half second whether `last_pong_at` has reached the time of the PING; if it has
not when the deadline is over, it declares the connection dead.

`Watch` is one connection with its heartbeat task and the clock.  Everything else the process does
to the connection -- frames put in its queue, ACKs and PONGs handled, the sender, what other tasks
write on the socket, a slow-consumer termination, the final cleanup -- is a step of its own, and the
steps come in any order.  A sleep may end late but not early; `Prompt late` bounds how late.

The arithmetic is that of the watchdog in `Lib/Watchdog`, which `Watch` is a case of
(`shadow_step`):

* `silence_bounded`: an ACTIVE connection has been heard from within an interval, a timeout and a
  second (and the lateness of three sleeps);
* `verdict_justified`: no connection is declared dead before the timeout has passed since a PING
  during which no PONG was handled, and none twice;
* `saturated_client_dropped`: the PING waits behind the message that waits for the window, and
  nothing leaves the queue.  A client that has used up its window and answers every PING it gets is
  declared dead.
-/
import Mathlib
import Relay.Connection
import Relay.Handler
import Relay.World
import Relay.Lib.Run
import Relay.Lib.Watchdog

namespace Relay

/-! ## 1. Data -/

/-- The settings `run_heartbeat` reads, in microseconds. -/
structure HeartbeatSettings where
  heartbeatInterval : Nat := 15000000
  heartbeatTimeout : Nat := 10000000

/-- `asyncio.sleep(0.5)`. -/
def pollInterval : Nat := 500000

/-- The reasons given to `_on_dead_connection`. -/
inductive DeadReason
  | heartbeatTimeout
  | slowConsumer
  deriving DecidableEq, Repr

/-- The code `_on_dead_connection` closes the socket with. -/
def DeadReason.closeCode : DeadReason → Nat
  | .heartbeatTimeout => 4408
  | .slowConsumer => 4409

/-- Where the task of `run_heartbeat` is suspended. -/
inductive Beat
  /-- In `sleep(heartbeat_interval_seconds)`. -/
  | sleeping (due : Nat)
  /-- In `sleep(0.5)`, waiting for the answer to a PING. -/
  | polling (sentAt deadline due : Nat)
  /-- In `websocket.close(code)`, called by `_on_dead_connection`. -/
  | closing (code : Nat)
  | returned
  deriving DecidableEq

/-- What the heartbeat and the frame loop do that has to do with being alive. -/
inductive BeatEvent
  | ping (serverTime : Nat)
  | pong (receivedAt : Nat)
  | dead (reason : DeadReason) (declaredAt : Nat)
  deriving DecidableEq

/-- A connection, its heartbeat task and the clock.  `trace` is bookkeeping of the model. -/
structure Watch where
  conn : Connection
  now : Nat
  beat : Beat
  trace : List BeatEvent := []

namespace Watch

variable (env : Env) (hb : HeartbeatSettings)

/-! ## 2. `run_heartbeat` -/

/-- `_on_dead_connection`, up to its await. -/
def onDead (reason : DeadReason) (w : Watch) : Watch :=
  { w with
    conn := { w.conn with state := .dead }
    beat := .closing reason.closeCode
    trace := w.trace ++ [.dead reason w.now] }

/-- The head of the inner loop: `while time.time() < deadline`. -/
def pollLoop (sentAt deadline : Nat) (w : Watch) : Watch :=
  if w.now < deadline then { w with beat := .polling sentAt deadline (w.now + pollInterval) }
  else w.onDead .heartbeatTimeout

/-- The head of the outer loop: `while conn.state == ConnectionState.ACTIVE`. -/
def beatLoop (w : Watch) : Watch :=
  if w.conn.state = .active then { w with beat := .sleeping (w.now + hb.heartbeatInterval) }
  else { w with beat := .returned }

/-- The PING, and the wait for its answer. -/
def sendPing (w : Watch) : Watch :=
  match w.conn.enqueue env (.ping w.now) .high none none with
  | .error _ => w.onDead .slowConsumer
  | .ok conn =>
    pollLoop w.now (w.now + hb.heartbeatTimeout)
      { w with conn := conn, trace := w.trace ++ [BeatEvent.ping w.now] }

/-- The task is resumed: to its next await. -/
def resumeBeat (w : Watch) : Watch :=
  match w.beat with
  | .sleeping due =>
    if due ≤ w.now then
      if w.conn.state = .active then w.sendPing env hb else { w with beat := .returned }
    else w
  | .polling sentAt deadline due =>
    if due ≤ w.now then
      if w.conn.state = .active then
        if sentAt ≤ w.conn.lastPongAt then w.beatLoop hb else w.pollLoop sentAt deadline
      else { w with beat := .returned }
    else w
  | .closing _ => { w with beat := .returned }
  | .returned => w

/-! ## 3. The connection among its tasks -/

/-- A frame that does not go through the queue. -/
def direct : ServerFrame → Bool
  | .ping _ => false
  | .message _ => false
  | _ => true

inductive Act
  | tick (micros : Nat)
  /-- The heartbeat task is resumed. -/
  | beat
  /-- The frame loop handles a PONG. -/
  | pong
  /-- The frame loop handles an ACK. -/
  | ack (channel : Channel) (sequence : Int)
  /-- The fanout or a replay enqueues a frame. -/
  | push (payload : ServerFrame) (priority : Priority) (channel : Option Channel)
      (sequence : Option Int)
  | sender
  | sendFails
  /-- Another task than the sender writes a frame on the socket: the handler its CONNECTED,
  SUBSCRIBED, UNSUBSCRIBED, RESUMED or ERROR, a termination its DISCONNECT. -/
  | write (frame : ServerFrame)
  /-- `terminate_slow_consumer` up to its await. -/
  | terminate
  /-- `_cleanup_connection`: it cancels the sender and the heartbeat. -/
  | cleanup

def step (w : Watch) : Act → Watch
  | .tick micros => { w with now := w.now + micros }
  | .beat => w.resumeBeat env hb
  | .pong => { w with
      conn := { w.conn with lastPongAt := w.now }, trace := w.trace ++ [.pong w.now] }
  | .ack channel sequence => { w with conn := (w.conn.onAck env channel sequence).2 }
  | .push payload priority channel sequence =>
    match w.conn.enqueue env payload priority channel sequence with
    | .ok conn => { w with conn := conn }
    | .error _ => w
  | .sender => { w with conn := (w.conn.senderStep env).getD w.conn }
  | .sendFails => { w with conn := w.conn.sendFails }
  | .write frame =>
    if direct frame then { w with conn := { w.conn with wire := w.conn.wire ++ [frame] } } else w
  | .terminate => { w with conn := { w.conn with state := .dead } }
  | .cleanup => { w with conn := { w.conn with state := .dead }.cancelSender, beat := .returned }

/-- A connection built at `created`, whose heartbeat task starts at `now`. -/
def start (conn : Connection) (created now : Nat) : Watch :=
  beatLoop hb ⟨{ conn with lastPongAt := created }, now, .returned, []⟩

end Watch

/-- When the task may be resumed from its sleep. -/
def Beat.due? : Beat → Option Nat
  | .sleeping due => some due
  | .polling _ _ due => some due
  | _ => none

namespace Watch

variable {env : Env} {hb : HeartbeatSettings} {late : Nat}

/-- The clock does not run more than `late` past the end of a sleep before the task is resumed. -/
def Prompt (late : Nat) (w : Watch) : Act → Prop
  | .tick micros => ∀ due ∈ w.beat.due?, w.now + micros ≤ due + late
  | _ => True

/-- After the PING. -/
def pinged (env : Env) (w : Watch) : Watch :=
  { w with
    conn := w.conn.put ⟨.ping w.now, env.wireSize (.ping w.now), .high, none, none⟩
    trace := w.trace ++ [BeatEvent.ping w.now] }

/-- A PING is never refused. -/
theorem enqueue_ping (env : Env) (serverTime : Nat) (conn : Connection) :
    conn.enqueue env (.ping serverTime) .high none none
      = .ok (conn.put ⟨.ping serverTime, env.wireSize (.ping serverTime), .high, none, none⟩) := by
  unfold Connection.enqueue
  simp only
  split <;> rfl

/-- The `SLOW_CONSUMER` branch of `run_heartbeat` is not taken. -/
theorem sendPing_eq (w : Watch) :
    w.sendPing env hb = (w.pinged env).pollLoop w.now (w.now + hb.heartbeatTimeout) := by
  rw [sendPing, enqueue_ping]
  rfl

theorem pollLoop_cases (sentAt deadline : Nat) (w : Watch) :
    (w.now < deadline ∧ w.pollLoop sentAt deadline
        = { w with beat := .polling sentAt deadline (w.now + pollInterval) }) ∨
      (deadline ≤ w.now ∧ w.pollLoop sentAt deadline = w.onDead .heartbeatTimeout) := by
  unfold pollLoop
  split
  · rename_i h; exact Or.inl ⟨h, rfl⟩
  · rename_i h; exact Or.inr ⟨Nat.le_of_not_lt h, rfl⟩

/-- **One resumption of the heartbeat, completely.**  It is not due; it finds that the connection
is not ACTIVE any more, or has nothing left to do; it sends a PING; it finds an answer; or it looks
for one in vain. -/
theorem resumeBeat_cases (env : Env) (hb : HeartbeatSettings) (w : Watch) :
    w.resumeBeat env hb = w ∨
    (w.resumeBeat env hb = { w with beat := .returned } ∧
      ((∃ code, w.beat = .closing code) ∨ w.conn.state ≠ .active)) ∨
    (∃ due, w.beat = .sleeping due ∧ due ≤ w.now ∧ w.conn.state = .active ∧
      w.resumeBeat env hb = (w.pinged env).pollLoop w.now (w.now + hb.heartbeatTimeout)) ∨
    ∃ sentAt deadline due, w.beat = .polling sentAt deadline due ∧ due ≤ w.now ∧
      w.conn.state = .active ∧
      ((sentAt ≤ w.conn.lastPongAt ∧
          w.resumeBeat env hb = { w with beat := .sleeping (w.now + hb.heartbeatInterval) }) ∨
        (w.conn.lastPongAt < sentAt ∧ w.resumeBeat env hb = w.pollLoop sentAt deadline)) := by
  unfold resumeBeat
  cases hbeat : w.beat with
  | sleeping due =>
    simp only
    by_cases hdue : due ≤ w.now
    · by_cases hact : w.conn.state = .active
      · rw [if_pos hdue, if_pos hact, sendPing_eq]
        exact Or.inr (Or.inr (Or.inl ⟨due, rfl, hdue, hact, rfl⟩))
      · rw [if_pos hdue, if_neg hact]
        exact Or.inr (Or.inl ⟨rfl, Or.inr hact⟩)
    · rw [if_neg hdue]
      exact Or.inl rfl
  | polling sentAt deadline due =>
    simp only
    by_cases hdue : due ≤ w.now
    · by_cases hact : w.conn.state = .active
      · refine Or.inr (Or.inr (Or.inr ⟨sentAt, deadline, due, rfl, hdue, hact, ?_⟩))
        rw [if_pos hdue, if_pos hact]
        by_cases hans : sentAt ≤ w.conn.lastPongAt
        · rw [if_pos hans, beatLoop, if_pos hact]
          exact Or.inl ⟨hans, rfl⟩
        · rw [if_neg hans]
          exact Or.inr ⟨Nat.lt_of_not_le hans, rfl⟩
      · rw [if_pos hdue, if_neg hact]
        exact Or.inr (Or.inl ⟨rfl, Or.inr hact⟩)
    · rw [if_neg hdue]
      exact Or.inl rfl
  | closing code => exact Or.inr (Or.inl ⟨rfl, Or.inl ⟨code, rfl⟩⟩)
  | returned => exact Or.inl rfl

/-- In the system of `World`, a resumption of the heartbeat is a PING, a timeout, one after the
other, or nothing. -/
theorem beat_world (w : Watch) (world : World) (n : NodeId) (x : ConnId)
    (hconn : (world.nodes n).registry.byId.get? x = some w.conn) : ∃ acts : List WorldAct,
      (∀ a ∈ acts, a = .ping n x w.now ∨ a = .timeout n x) ∧
        ((runAll (World.step env) world acts).nodes n).registry.byId.get? x
          = some (w.step env hb .beat).conn := by
  have hping : w.conn.state = .active →
      World.pingConn env w.now w.conn = (w.pinged env).conn := by
    intro hact
    rw [World.pingConn, if_pos hact, enqueue_ping]
    rfl
  have hget : ∀ (W : World) (f : Connection → Connection) (conn : Connection),
      (W.nodes n).registry.byId.get? x = some conn →
      ((W.onNode n (Node.updateConn x f)).nodes n).registry.byId.get? x = some (f conn) := by
    intro W f conn hW
    simp [World.onNode, Node.updateConn, Registry.get_updateConn, hW]
  simp only [step]
  rcases resumeBeat_cases env hb w with heq | ⟨heq, -⟩ | ⟨due, -, -, hact, heq⟩ |
      ⟨sentAt, deadline, due, -, -, hact, ⟨-, heq⟩ | ⟨-, heq⟩⟩ <;> rw [heq]
  · exact ⟨[], by simp, hconn⟩
  · exact ⟨[], by simp, hconn⟩
  · have hfirst := hget world (World.pingConn env w.now) w.conn hconn
    rw [hping hact] at hfirst
    rcases pollLoop_cases w.now (w.now + hb.heartbeatTimeout) (w.pinged env) with
      ⟨-, hpoll⟩ | ⟨-, hpoll⟩ <;> rw [hpoll]
    · exact ⟨[.ping n x w.now], by simp, hfirst⟩
    · exact ⟨[.ping n x w.now, .timeout n x], by simp,
        hget _ (fun conn => { conn with state := .dead }) _ hfirst⟩
  · exact ⟨[], by simp, hconn⟩
  · rcases pollLoop_cases sentAt deadline w with ⟨-, hpoll⟩ | ⟨-, hpoll⟩ <;> rw [hpoll]
    · exact ⟨[], by simp, hconn⟩
    · exact ⟨[.timeout n x], by simp, hget world (fun conn => { conn with state := .dead }) _ hconn⟩

/-! ## 4. The watchdog in it -/

end Watch

/-- The times of the watchdog. -/
def HeartbeatSettings.timing (hb : HeartbeatSettings) : Watchdog.Timing :=
  ⟨hb.heartbeatInterval, hb.heartbeatTimeout, pollInterval⟩

/-- The phase of the watchdog. -/
def Beat.phase : Beat → Watchdog.Phase
  | .sleeping due => .resting due
  | .polling sentAt deadline due => .listening sentAt deadline due
  | .closing _ => .ended
  | .returned => .ended

theorem Beat.due?_phase (b : Beat) : b.phase.due? = b.due? := by
  cases b <;> rfl

namespace Watch

variable {env : Env} {hb : HeartbeatSettings} {late : Nat}

/-- The watchdog a connection's heartbeat is. -/
def shadow (w : Watch) : Watchdog.State := ⟨w.now, w.conn.lastPongAt, w.beat.phase⟩

/-- What the watchdog does when the process takes a step. -/
def shadowAct (w : Watch) : Act → Option Watchdog.Act
  | .tick micros => some (.tick micros)
  | .pong => some .hear
  | .beat =>
    if w.conn.state ≠ .active ∧ ∃ due ∈ w.beat.due?, due ≤ w.now then some .stop else some .wake
  | .cleanup => some .stop
  | _ => none

theorem lastPongAt_enqueue {payload : ServerFrame} {priority : Priority} {channel : Option Channel}
    {sequence : Option Int} {c c' : Connection}
    (h : c.enqueue env payload priority channel sequence = .ok c') :
    c'.lastPongAt = c.lastPongAt ∧ c'.state = c.state := by
  rcases Connection.enqueue_cases h with ⟨rfl, -⟩ | rfl <;> exact ⟨rfl, rfl⟩

theorem lastPongAt_waitForWindow (env : Env) (c : Connection) (item : QueuedMessage) :
    (c.waitForWindow env item).lastPongAt = c.lastPongAt ∧
      (c.waitForWindow env item).state = c.state := by
  unfold Connection.waitForWindow Connection.release
  split
  · exact ⟨rfl, rfl⟩
  · split <;> exact ⟨rfl, rfl⟩

theorem lastPongAt_senderStep (env : Env) (c : Connection) :
    ((c.senderStep env).getD c).lastPongAt = c.lastPongAt ∧
      ((c.senderStep env).getD c).state = c.state := by
  cases h : c.senderStep env with
  | none => exact ⟨rfl, rfl⟩
  | some c' =>
    rcases Connection.senderStep_cases h with
      ⟨item, rest, -, -, ⟨-, rfl⟩ | ⟨-, rfl⟩⟩ | ⟨item, -, -, rfl⟩ | ⟨item, -, rfl⟩
    · exact lastPongAt_waitForWindow env _ item
    · exact ⟨rfl, rfl⟩
    · exact lastPongAt_waitForWindow env c item
    · rw [Option.getD_some, Connection.senderLoop]
      split <;> exact ⟨rfl, rfl⟩

theorem lastPongAt_sendFails (c : Connection) : c.sendFails.lastPongAt = c.lastPongAt := by
  unfold Connection.sendFails
  split <;> rfl

theorem shadow_pollLoop (hb : HeartbeatSettings) (w : Watch) (sentAt deadline : Nat) :
    (w.pollLoop sentAt deadline).shadow
      = ⟨w.now, w.conn.lastPongAt, Watchdog.look hb.timing w.now sentAt deadline⟩ := by
  unfold pollLoop Watchdog.look
  split <;> rfl

theorem shadow_beat (w : Watch) : (w.resumeBeat env hb).shadow
    = (w.shadowAct .beat).elim w.shadow (Watchdog.step hb.timing w.shadow) := by
  unfold resumeBeat shadowAct
  cases hbeat : w.beat with
  | sleeping due =>
    by_cases hdue : due ≤ w.now
    · by_cases hact : w.conn.state = .active
      · have hwake : Watchdog.step hb.timing w.shadow .wake = ⟨w.now, w.conn.lastPongAt,
            Watchdog.look hb.timing w.now w.now (w.now + hb.heartbeatTimeout)⟩ := by
          simp [Watchdog.step, Watchdog.resume, shadow, Beat.phase, hbeat, hdue,
            HeartbeatSettings.timing]
        simp only [hdue, hact, if_true, sendPing_eq, shadow_pollLoop hb, ne_eq, not_true_eq_false,
          false_and, if_false, Option.elim_some, hwake]
        rfl
      · simp [hdue, hact, Beat.due?, Watchdog.step, shadow, Beat.phase]
    · simp [hdue, Beat.due?, Watchdog.step, Watchdog.resume, shadow, Beat.phase, hbeat]
  | polling sentAt deadline due =>
    by_cases hdue : due ≤ w.now
    · by_cases hact : w.conn.state = .active
      · by_cases hans : sentAt ≤ w.conn.lastPongAt
        · simp [hdue, hact, hans, beatLoop, Watchdog.step, Watchdog.resume, shadow, Beat.phase,
            hbeat, HeartbeatSettings.timing]
        · have hwake : Watchdog.step hb.timing w.shadow .wake = ⟨w.now, w.conn.lastPongAt,
              Watchdog.look hb.timing w.now sentAt deadline⟩ := by
            simp [Watchdog.step, Watchdog.resume, shadow, Beat.phase, hbeat, hdue, hans]
          simp only [hdue, hact, if_true, hans, if_false, shadow_pollLoop hb, ne_eq,
            not_true_eq_false, false_and, Option.elim_some, hwake]
      · simp [hdue, hact, Beat.due?, Watchdog.step, shadow, Beat.phase]
    · simp [hdue, Beat.due?, Watchdog.step, Watchdog.resume, shadow, Beat.phase, hbeat]
  | closing code => simp [Beat.due?, Watchdog.step, Watchdog.resume, shadow, Beat.phase, hbeat]
  | returned => simp [Beat.due?, Watchdog.step, Watchdog.resume, shadow, Beat.phase, hbeat]

/-- **The heartbeat is the watchdog**: every step of the process is one step of it, or none. -/
theorem shadow_step (w : Watch) (a : Act) : (w.step env hb a).shadow
    = (w.shadowAct a).elim w.shadow (Watchdog.step hb.timing w.shadow) := by
  cases a with
  | tick micros => rfl
  | beat => exact shadow_beat w
  | pong => rfl
  | ack channel sequence => rfl
  | push payload priority channel sequence =>
    simp only [step, shadowAct, Option.elim_none]
    split
    · rename_i conn h
      simp only [shadow, (lastPongAt_enqueue h).1]
    · rfl
  | sender => simp only [step, shadowAct, Option.elim_none, shadow, (lastPongAt_senderStep env _).1]
  | sendFails => simp only [step, shadowAct, Option.elim_none, shadow, lastPongAt_sendFails]
  | write frame =>
    simp only [step, shadowAct, Option.elim_none]
    split <;> rfl
  | terminate => rfl
  | cleanup => rfl

/-! ## 5. Dead connections are found -/

/-- The watchdog is on time when the task is. -/
theorem onTime_shadow {w : Watch} {a : Act} (h : Prompt late w a) :
    ∀ a' ∈ w.shadowAct a, Watchdog.OnTime late w.shadow a' := by
  intro a' ha'
  cases a with
  | tick micros =>
    obtain rfl : Watchdog.Act.tick micros = a' := Option.some.inj ha'
    intro due hdue
    exact h due (by rwa [← Beat.due?_phase])
  | beat =>
    simp only [shadowAct] at ha'
    split at ha' <;> cases ha' <;> trivial
  | pong => cases ha'; trivial
  | cleanup => cases ha'; trivial
  | ack channel sequence => cases ha'
  | push payload priority channel sequence => cases ha'
  | sender => cases ha'
  | sendFails => cases ha'
  | write frame => cases ha'
  | terminate => cases ha'

theorem timely_step {w : Watch} (a : Act) (h : Watchdog.Timely hb.timing late w.shadow)
    (hok : Prompt late w a) : Watchdog.Timely hb.timing late (w.step env hb a).shadow := by
  rw [shadow_step]
  cases ha : w.shadowAct a with
  | none => exact h
  | some a' => exact Watchdog.timely_step h a' (onTime_shadow hok a' ha)

/-- While the connection is ACTIVE the heartbeat task is in its loop. -/
def Watching (w : Watch) : Prop := w.conn.state = .active → w.beat.phase ≠ .ended

theorem watching_pollLoop {w : Watch} (sentAt deadline : Nat) :
    Watching (w.pollLoop sentAt deadline) := by
  intro hact
  rcases pollLoop_cases sentAt deadline w with ⟨-, heq⟩ | ⟨-, heq⟩ <;> rw [heq] at hact ⊢
  · intro h
    cases h
  · cases hact

theorem watching_step {w : Watch} (a : Act) (h : Watching w) : Watching (w.step env hb a) := by
  cases a with
  | tick micros => exact h
  | beat =>
    simp only [step]
    rcases resumeBeat_cases env hb w with heq | ⟨heq, hcase⟩ | ⟨due, -, -, -, heq⟩ |
        ⟨sentAt, deadline, due, -, -, -, ⟨-, heq⟩ | ⟨-, heq⟩⟩ <;> rw [heq]
    · exact h
    · intro hact
      rcases hcase with ⟨code, hcode⟩ | hdead
      · exact absurd (by rw [hcode]; rfl) (h hact)
      · exact absurd hact hdead
    · exact watching_pollLoop _ _
    · intro _ hend
      cases hend
    · exact watching_pollLoop _ _
  | pong => exact h
  | ack channel sequence => exact h
  | push payload priority channel sequence =>
    simp only [step]
    split
    · rename_i conn hconn
      intro hact
      exact h ((lastPongAt_enqueue hconn).2 ▸ hact)
    · exact h
  | sender =>
    intro hact
    exact h ((lastPongAt_senderStep env w.conn).2 ▸ hact)
  | sendFails =>
    intro hact
    refine h ?_
    simp only [step, Connection.sendFails] at hact
    split at hact
    · cases hact
    · exact hact
  | write frame =>
    simp only [step]
    split <;> exact h
  | terminate => intro hact; cases hact
  | cleanup => intro hact; cases hact

theorem shadow_start (hb : HeartbeatSettings) (conn : Connection) (created now : Nat) :
    (start hb conn created now).now = now ∧
      (start hb conn created now).conn.lastPongAt = created ∧
      (start hb conn created now).trace = [] ∧
      ((start hb conn created now).beat = .sleeping (now + hb.heartbeatInterval) ∨
        (start hb conn created now).beat = .returned ∧
          (start hb conn created now).conn.state ≠ .active) := by
  unfold start beatLoop
  split
  · exact ⟨rfl, rfl, rfl, Or.inl rfl⟩
  · rename_i hact
    exact ⟨rfl, rfl, rfl, Or.inr ⟨rfl, hact⟩⟩

theorem timely_start {created now : Nat} (hnow : created ≤ now) (hlate : now ≤ created + late)
    (conn : Connection) : Watchdog.Timely hb.timing late (start hb conn created now).shadow := by
  obtain ⟨hn, hp, -, hbeat⟩ := shadow_start hb conn created now
  refine ⟨by simp only [shadow, hn, hp]; exact hnow, ?_⟩
  rcases hbeat with hbeat | ⟨hbeat, -⟩
  · simp only [shadow, hn, hp, hbeat, Beat.phase, Watchdog.Fits, HeartbeatSettings.timing]
    omega
  · simp only [shadow, hbeat, Beat.phase, Watchdog.Fits]

theorem watching_start (conn : Connection) (created now : Nat) :
    Watching (start hb conn created now) := by
  intro hact
  obtain ⟨-, -, -, hbeat | ⟨-, hdead⟩⟩ := shadow_start hb conn created now
  · rw [hbeat]
    intro h
    cases h
  · exact absurd hact hdead

theorem timely_run {created now : Nat} (hnow : created ≤ now) (hlate : now ≤ created + late)
    (conn : Connection) (acts : List Act)
    (hprompt : Along (step env hb) (Prompt late) (start hb conn created now) acts) :
    Watchdog.Timely hb.timing late
      (runAll (step env hb) (start hb conn created now) acts).shadow :=
  @runAll_invariant _ _ (step env hb) (Prompt late) (fun w => Watchdog.Timely hb.timing late w.shadow)
    (fun _ a h hok => timely_step a h hok) acts _ (timely_start hnow hlate conn) hprompt

theorem watching_run (conn : Connection) (created now : Nat) (acts : List Act) :
    Watching (runAll (step env hb) (start hb conn created now) acts) :=
  runAll_invariant' (fun _ a h => watching_step a h) acts _ (watching_start conn created now)

/-- **A connection that stays ACTIVE has been heard from.**  In every run in which no sleep of the
heartbeat task ends more than `late` after its time, and whatever else the process does to the
connection in between, an ACTIVE connection's last PONG is not older than the interval, the timeout,
two polls and three times `late`. -/
theorem silence_bounded (env : Env) (hb : HeartbeatSettings) (late : Nat) (conn : Connection)
    (created now : Nat) (hnow : created ≤ now) (hlate : now ≤ created + late) (acts : List Act)
    (hprompt : Along (step env hb) (Prompt late) (start hb conn created now) acts)
    (hact : (runAll (step env hb) (start hb conn created now) acts).conn.state = .active) :
    (runAll (step env hb) (start hb conn created now) acts).now ≤
      (runAll (step env hb) (start hb conn created now) acts).conn.lastPongAt
        + hb.heartbeatInterval + hb.heartbeatTimeout + 2 * pollInterval + 3 * late :=
  (timely_run hnow hlate conn acts hprompt).silence_le (watching_run conn created now acts hact)

/-- A connection that answers its first PING after 0.4 s and is found alive 0.1 s later. -/
def answeringRun : List Act := [.tick 15000000, .beat, .tick 400000, .pong, .tick 100000, .beat]

theorem silence_bounded_answering :
    (runAll (step (.plain {}) {}) (start {} (newConnection "c" "s" "t" none) 0 0)
        answeringRun).conn.state = .active ∧
      (runAll (step (.plain {}) {}) (start {} (newConnection "c" "s" "t" none) 0 0)
        answeringRun).now ≤ 15400000 + 15000000 + 10000000 + 2 * pollInterval + 3 * 0 := by
  refine ⟨rfl, silence_bounded (.plain {}) {} 0 (newConnection "c" "s" "t" none) 0 0
    (Nat.le_refl _) (Nat.le_refl _) answeringRun ?_ rfl⟩
  refine ⟨fun due hdue => ?_, trivial, fun due hdue => ?_, trivial, fun due hdue => ?_, trivial,
    trivial⟩ <;> cases hdue <;> decide

/-! ## 6. Live connections are spared -/

/-- A connection was declared dead for a PING that had been waiting for the whole timeout, and no
PONG was handled after it. -/
def Justified (hb : HeartbeatSettings) (past : List BeatEvent) (reason : DeadReason)
    (declaredAt : Nat) : Prop :=
  reason = .heartbeatTimeout ∧ ∃ before sentAt since, past = before ++ .ping sentAt :: since ∧
    sentAt + hb.heartbeatTimeout ≤ declaredAt ∧ ∀ receivedAt, .pong receivedAt ∉ since

/-- The trace of a watch, and how the state of the task follows from it. -/
structure Traced (hb : HeartbeatSettings) (w : Watch) : Prop where
  justified : ∀ past reason declaredAt rest, w.trace = past ++ .dead reason declaredAt :: rest →
    Justified hb past reason declaredAt ∧ ∀ e ∈ rest, ∃ receivedAt, e = .pong receivedAt
  decided : ∀ reason declaredAt, .dead reason declaredAt ∈ w.trace → w.beat.phase = .ended
  asked : ∀ sentAt deadline due, w.beat = .polling sentAt deadline due →
    deadline = sentAt + hb.heartbeatTimeout ∧ sentAt ≤ w.now ∧
      ∃ before since, w.trace = before ++ .ping sentAt :: since ∧
        (w.conn.lastPongAt < sentAt → ∀ receivedAt, .pong receivedAt ∉ since)

theorem snoc_split {α : Type} {tr l₁ l₂ : List α} {e d : α} (h : tr ++ [e] = l₁ ++ d :: l₂) :
    (l₂ = [] ∧ e = d ∧ tr = l₁) ∨ ∃ l₃, l₂ = l₃ ++ [e] ∧ tr = l₁ ++ d :: l₃ := by
  rcases List.eq_nil_or_concat l₂ with rfl | ⟨l₃, x, rfl⟩
  · obtain ⟨htr, he⟩ := List.append_inj' h rfl
    exact Or.inl ⟨rfl, List.head_eq_of_cons_eq he, htr⟩
  · rw [List.concat_eq_append, ← List.cons_append, ← List.append_assoc] at h
    obtain ⟨htr, he⟩ := List.append_inj' h rfl
    obtain rfl : e = x := List.head_eq_of_cons_eq he
    exact Or.inr ⟨l₃, List.concat_eq_append, htr⟩

namespace Traced

variable {w w' : Watch}

/-- A step that leaves the trace, the task and the last PONG alone. -/
theorem congr (h : Traced hb w) (ht : w'.trace = w.trace) (hbeat : w'.beat = w.beat)
    (hp : w'.conn.lastPongAt = w.conn.lastPongAt) (hnow : w.now ≤ w'.now) : Traced hb w' := by
  constructor
  · rw [ht]; exact h.justified
  · rw [ht, hbeat]; exact h.decided
  · rw [ht, hbeat, hp]
    intro sentAt deadline due hb'
    obtain ⟨hd, hs, hrest⟩ := h.asked sentAt deadline due hb'
    exact ⟨hd, Nat.le_trans hs hnow, hrest⟩

/-- The task returns. -/
theorem returned (h : Traced hb w) (ht : w'.trace = w.trace) (hbeat : w'.beat = .returned) :
    Traced hb w' := by
  constructor
  · rw [ht]; exact h.justified
  · intro _ _ _
    rw [hbeat]
    rfl
  · intro sentAt deadline due hb'
    rw [hbeat] at hb'
    cases hb'

/-- While the task is in its loop, no verdict has been given. -/
theorem undecided (h : Traced hb w) (halive : w.beat.phase ≠ .ended) (reason : DeadReason)
    (declaredAt : Nat) : .dead reason declaredAt ∉ w.trace :=
  fun hmem => halive (h.decided reason declaredAt hmem)

theorem pong (h : Traced hb w) : Traced hb (w.step env hb .pong) := by
  constructor
  · intro past reason declaredAt rest heq
    rcases snoc_split heq with ⟨-, he, -⟩ | ⟨rest', rfl, htr⟩
    · cases he
    · obtain ⟨hj, hrest⟩ := h.justified past reason declaredAt rest' htr
      refine ⟨hj, fun e he => ?_⟩
      rcases List.mem_append.mp he with he | he
      · exact hrest e he
      · exact ⟨_, List.mem_singleton.mp he⟩
  · intro reason declaredAt hmem
    rcases List.mem_append.mp hmem with hmem | hmem
    · exact h.decided reason declaredAt hmem
    · cases List.mem_singleton.mp hmem
  · intro sentAt deadline due hbeat
    obtain ⟨hd, hs, before, since, htr, -⟩ := h.asked sentAt deadline due hbeat
    refine ⟨hd, hs, before, since ++ [.pong w.now], ?_, fun hlt => absurd hs (Nat.not_le.mpr hlt)⟩
    simp only [step, htr, List.append_assoc, List.cons_append]

/-- The wait for an answer to the PING goes on, or ends with the verdict. -/
theorem poll {sentAt : Nat} {before since : List BeatEvent}
    (hnone : ∀ reason declaredAt, .dead reason declaredAt ∉ w.trace) (hsent : sentAt ≤ w.now)
    (htr : w.trace = before ++ .ping sentAt :: since)
    (hsilent : ∀ receivedAt, .pong receivedAt ∉ since) :
    Traced hb (w.pollLoop sentAt (sentAt + hb.heartbeatTimeout)) := by
  rcases pollLoop_cases sentAt (sentAt + hb.heartbeatTimeout) w with ⟨-, heq⟩ | ⟨hdeadline, heq⟩ <;>
    rw [heq]
  · constructor
    · intro past reason declaredAt rest hsplit
      exact absurd (hsplit ▸ List.mem_append_right past List.mem_cons_self) (hnone reason declaredAt)
    · exact fun reason declaredAt hmem => absurd hmem (hnone reason declaredAt)
    · intro s d due hbeat
      cases hbeat
      exact ⟨rfl, hsent, before, since, htr, fun _ => hsilent⟩
  · constructor
    · intro past reason declaredAt rest hsplit
      rcases snoc_split hsplit with ⟨rfl, he, rfl⟩ | ⟨rest', -, hold⟩
      · cases he
        exact ⟨⟨rfl, before, sentAt, since, htr, hdeadline, hsilent⟩, by simp⟩
      · exact absurd (hold ▸ List.mem_append_right past List.mem_cons_self)
          (hnone reason declaredAt)
    · exact fun _ _ _ => rfl
    · intro s d due hbeat
      cases hbeat

theorem beat (h : Traced hb w) : Traced hb (w.step env hb .beat) := by
  simp only [step]
  rcases resumeBeat_cases env hb w with heq | ⟨heq, -⟩ | ⟨due, hbeat, -, -, heq⟩ |
      ⟨sentAt, deadline, due, hbeat, -, -, ⟨-, heq⟩ | ⟨hlt, heq⟩⟩ <;> rw [heq]
  · exact h
  · exact h.returned rfl rfl
  · have hnone := h.undecided (by rw [hbeat]; simp [Beat.phase])
    have hnone' : ∀ reason declaredAt, .dead reason declaredAt ∉ (w.pinged env).trace := by
      intro reason declaredAt hmem
      rcases List.mem_append.mp hmem with hmem | hmem
      · exact hnone reason declaredAt hmem
      · cases List.mem_singleton.mp hmem
    have htr : (w.pinged env).trace = w.trace ++ .ping w.now :: [] := rfl
    exact poll hnone' (Nat.le_refl w.now) htr (by simp)
  · have hnone := h.undecided (by rw [hbeat]; simp [Beat.phase])
    constructor
    · intro past reason declaredAt rest hsplit
      exact absurd (hsplit ▸ List.mem_append_right past List.mem_cons_self) (hnone reason declaredAt)
    · exact fun reason declaredAt hmem => absurd hmem (hnone reason declaredAt)
    · intro s d due' hb'
      cases hb'
  · have hnone := h.undecided (by rw [hbeat]; simp [Beat.phase])
    obtain ⟨rfl, hs, before, since, htr, hsilent⟩ := h.asked sentAt deadline due hbeat
    exact poll hnone hs htr (hsilent hlt)

end Traced

theorem traced_step {w : Watch} (a : Act) (h : Traced hb w) : Traced hb (w.step env hb a) := by
  cases a with
  | tick micros => exact h.congr rfl rfl rfl (Nat.le_add_right _ _)
  | beat => exact h.beat
  | pong => exact h.pong
  | ack channel sequence => exact h.congr rfl rfl rfl (Nat.le_refl _)
  | push payload priority channel sequence =>
    simp only [step]
    split
    · rename_i conn hconn
      exact h.congr rfl rfl (lastPongAt_enqueue hconn).1 (Nat.le_refl _)
    · exact h
  | sender => exact h.congr rfl rfl (lastPongAt_senderStep env w.conn).1 (Nat.le_refl _)
  | sendFails => exact h.congr rfl rfl (lastPongAt_sendFails w.conn) (Nat.le_refl _)
  | write frame =>
    simp only [step]
    split
    · exact h.congr rfl rfl rfl (Nat.le_refl _)
    · exact h
  | terminate => exact h.congr rfl rfl rfl (Nat.le_refl _)
  | cleanup => exact h.returned rfl rfl

theorem traced_start (conn : Connection) (created now : Nat) :
    Traced hb (start hb conn created now) := by
  obtain ⟨-, -, htr, hbeat⟩ := shadow_start hb conn created now
  constructor
  · intro past reason declaredAt rest hsplit
    rw [htr] at hsplit
    exact absurd hsplit (by simp)
  · intro reason declaredAt hmem
    rw [htr] at hmem
    exact absurd hmem List.not_mem_nil
  · intro sentAt deadline due hb'
    rcases hbeat with hbeat | ⟨hbeat, -⟩ <;> rw [hbeat] at hb' <;> cases hb'

/-- **Nobody is declared dead who answered.**  In every run, however late the task is resumed: a
connection is declared dead only for the timeout, only when that has passed since a PING after which
no PONG was handled, and after it the heartbeat sends nothing and gives no second verdict. -/
theorem verdict_justified (env : Env) (hb : HeartbeatSettings) (conn : Connection)
    (created now : Nat) (acts : List Act) (past rest : List BeatEvent) (reason : DeadReason)
    (declaredAt : Nat)
    (h : (runAll (step env hb) (start hb conn created now) acts).trace
      = past ++ .dead reason declaredAt :: rest) :
    Justified hb past reason declaredAt ∧ ∀ e ∈ rest, ∃ receivedAt, e = .pong receivedAt :=
  (@runAll_invariant' _ _ (step env hb) (Traced hb) (fun _ a hw => traced_step a hw) acts _
    (traced_start conn created now)).justified past reason declaredAt rest h

theorem verdict_justified_silent : Justified {} [.ping 15000000] .heartbeatTimeout 25000000 ∧
    ∀ e ∈ [BeatEvent.pong 25000000], ∃ receivedAt, e = .pong receivedAt :=
  verdict_justified (.plain {}) {} (newConnection "c" "s" "t" none) 0 0
    [.tick 15000000, .beat, .tick 10000000, .beat, .pong] [.ping 15000000] [.pong 25000000]
    .heartbeatTimeout 25000000 rfl

/-! ## 7. A client whose window is used up -/

/-- The sender waits for the window with a message, and the window is full. -/
def Saturated (env : Env) (conn : Connection) : Prop :=
  ∃ item, conn.sender = .waiting item ∧ conn.windowEvent = false ∧
    env.settings.maxInflightMessages ≤ conn.inflight.length

/-- A PONG is handled only if a PING has been written since the connection had written `k` frames. -/
def Answering (k : Nat) (w : Watch) (a : Act) : Prop :=
  a = .pong → ∃ serverTime, .ping serverTime ∈ w.conn.wire.drop k

/-- Without an ACK. -/
def Unacked (a : Act) : Prop := ∀ channel sequence, a ≠ .ack channel sequence

/-- Since `c₀` nothing has left the queue: only other tasks have written, and the sender waits for
the window or is gone. -/
structure Stalled (env : Env) (c₀ conn : Connection) : Prop where
  wire : ∃ frames, conn.wire = c₀.wire ++ frames ∧ ∀ frame ∈ frames, direct frame = true
  queue : c₀.queue <+: conn.queue
  blocked : Saturated env conn ∨ conn.sender = .exited

theorem Stalled.refl {c : Connection} (h : Saturated env c) : Stalled env c c :=
  ⟨⟨[], (List.append_nil _).symm, fun _ hf => absurd hf List.not_mem_nil⟩, List.prefix_rfl,
    Or.inl h⟩

theorem Stalled.congr {c₀ c c' : Connection} (h : Stalled env c₀ c) (hw : c'.wire = c.wire)
    (hq : c.queue <+: c'.queue) (hs : c'.sender = c.sender) (he : c'.windowEvent = c.windowEvent)
    (hi : c'.inflight = c.inflight) : Stalled env c₀ c' := by
  refine ⟨hw ▸ h.wire, h.queue.trans hq, ?_⟩
  unfold Saturated
  rw [hs, he, hi]
  exact h.blocked

theorem stalled_pollLoop {c₀ : Connection} {w : Watch} (h : Stalled env c₀ w.conn)
    (sentAt deadline : Nat) : Stalled env c₀ (w.pollLoop sentAt deadline).conn ∧
      (w.pollLoop sentAt deadline).conn.lastPongAt = w.conn.lastPongAt := by
  rcases pollLoop_cases sentAt deadline w with ⟨-, heq⟩ | ⟨-, heq⟩ <;> rw [heq]
  · exact ⟨h, rfl⟩
  · exact ⟨h.congr rfl List.prefix_rfl rfl rfl rfl, rfl⟩

/-- Whatever else happens, without an ACK nothing leaves the queue, and so no PONG comes. -/
theorem stalled_step {c₀ : Connection} {w : Watch} {a : Act} (h : Stalled env c₀ w.conn)
    (hack : Unacked a) (hans : Answering c₀.wire.length w a) :
    Stalled env c₀ (w.step env hb a).conn ∧
      (w.step env hb a).conn.lastPongAt = w.conn.lastPongAt := by
  cases a with
  | tick micros => exact ⟨h, rfl⟩
  | beat =>
    simp only [step]
    rcases resumeBeat_cases env hb w with heq | ⟨heq, -⟩ | ⟨due, -, -, -, heq⟩ |
        ⟨sentAt, deadline, due, -, -, -, ⟨-, heq⟩ | ⟨-, heq⟩⟩ <;> rw [heq]
    · exact ⟨h, rfl⟩
    · exact ⟨h, rfl⟩
    · have hping : Stalled env c₀ (w.pinged env).conn :=
        h.congr rfl (List.prefix_append _ _) rfl rfl rfl
      exact stalled_pollLoop hping _ _
    · exact ⟨h, rfl⟩
    · exact stalled_pollLoop h _ _
  | pong =>
    -- the PING it answers would have been written by another task than the sender
    obtain ⟨serverTime, hmem⟩ := hans rfl
    obtain ⟨frames, hwire, hdirect⟩ := h.wire
    rw [hwire, List.drop_left] at hmem
    exact absurd (hdirect _ hmem) Bool.false_ne_true
  | ack channel sequence => exact absurd rfl (hack channel sequence)
  | push payload priority channel sequence =>
    simp only [step]
    split
    · rename_i conn hconn
      rcases Connection.enqueue_cases hconn with ⟨rfl, -⟩ | rfl
      · exact ⟨h.congr rfl List.prefix_rfl rfl rfl rfl, rfl⟩
      · exact ⟨h.congr rfl (List.prefix_append _ _) rfl rfl rfl, rfl⟩
    · exact ⟨h, rfl⟩
  | sender =>
    have hnone : w.conn.senderStep env = none := by
      rcases h.blocked with ⟨item, hs, he, -⟩ | hs
      · simp [Connection.senderStep, hs, he]
      · simp [Connection.senderStep, hs]
    simp only [step, hnone, Option.getD_none]
    exact ⟨h, trivial⟩
  | sendFails =>
    have hsame : w.conn.sendFails = w.conn := by
      rcases h.blocked with ⟨item, hs, -⟩ | hs <;> simp [Connection.sendFails, hs]
    simp only [step, hsame]
    exact ⟨h, trivial⟩
  | write frame =>
    simp only [step]
    split
    · rename_i hdirect
      obtain ⟨frames, hwire, hframes⟩ := h.wire
      refine ⟨⟨⟨frames ++ [frame], by rw [hwire, List.append_assoc], fun f hf => ?_⟩, h.queue,
        h.blocked⟩, rfl⟩
      rcases List.mem_append.mp hf with hf | hf
      · exact hframes f hf
      · rw [List.mem_singleton.mp hf]
        exact hdirect
    · exact ⟨h, rfl⟩
  | terminate => exact ⟨h.congr rfl List.prefix_rfl rfl rfl rfl, rfl⟩
  | cleanup => exact ⟨⟨h.wire, h.queue, Or.inr rfl⟩, rfl⟩

/-- **A client that answers every PING it gets is declared dead once its window is used up.**  From a
state where the sender waits for the window, and until an ACK is handled, nothing leaves the queue:
whatever is written is a direct write of another task, and no PING is.  So the last PONG stays the
last one, and the connection does not stay ACTIVE longer than the silence the heartbeat allows. -/
theorem saturated_client_dropped (env : Env) (hb : HeartbeatSettings) (late : Nat)
    (conn : Connection) (created now : Nat) (hnow : created ≤ now) (hlate : now ≤ created + late)
    (acts stall : List Act)
    (hprompt : Along (step env hb) (Prompt late) (start hb conn created now) (acts ++ stall))
    (hsat : Saturated env (runAll (step env hb) (start hb conn created now) acts).conn)
    (hack : ∀ a ∈ stall, Unacked a)
    (hans : Along (step env hb)
      (Answering (runAll (step env hb) (start hb conn created now) acts).conn.wire.length)
      (runAll (step env hb) (start hb conn created now) acts) stall) :
    Stalled env (runAll (step env hb) (start hb conn created now) acts).conn
        (runAll (step env hb) (start hb conn created now) (acts ++ stall)).conn ∧
      ((runAll (step env hb) (start hb conn created now) (acts ++ stall)).conn.state = .active →
        (runAll (step env hb) (start hb conn created now) (acts ++ stall)).now ≤
          (runAll (step env hb) (start hb conn created now) acts).conn.lastPongAt
            + hb.heartbeatInterval + hb.heartbeatTimeout + 2 * pollInterval + 3 * late) := by
  have hstall := @runAll_invariant _ _ (step env hb)
    (fun w a => Unacked a ∧
      Answering (runAll (step env hb) (start hb conn created now) acts).conn.wire.length w a)
    (fun w => Stalled env (runAll (step env hb) (start hb conn created now) acts).conn w.conn ∧
      w.conn.lastPongAt = (runAll (step env hb) (start hb conn created now) acts).conn.lastPongAt)
    (fun w a h hok => (stalled_step h.1 hok.1 hok.2).imp_right (fun k => k.trans h.2)) stall
    (runAll (step env hb) (start hb conn created now) acts) ⟨Stalled.refl hsat, rfl⟩
    ((along_of_forall stall hack).and hans)
  rw [← runAll_append] at hstall
  refine ⟨hstall.1, fun hact => ?_⟩
  have hsilence := (timely_run hnow hlate conn (acts ++ stall) hprompt).silence_le
    (watching_run conn created now (acts ++ stall) hact)
  rw [← hstall.2]
  exact hsilence

/-- A window of one slot, used up by the first of two messages. -/
def oneSlot : Env := .plain { maxInflightMessages := 1 }

/-- A connection whose sender runs. -/
def sendingConnection : Connection := { newConnection "c" "s" "t" none with sender := .getting }

def fillWindow : List Act :=
  [.push (.message ⟨"m1", "a", 1, 0, .null⟩) .normal (some "a") (some 1), .sender, .sender,
    .push (.message ⟨"m2", "a", 2, 0, .null⟩) .normal (some "a") (some 2), .sender]

/-- A SUBSCRIBE is answered, a PING is sent, and half a second later there is no PONG. -/
def stalledRun : List Act :=
  [.write (.subscribed "a"), .tick 15000000, .beat, .sender, .tick 500000, .beat]

theorem saturated_client_dropped_one_slot :
    (runAll (step oneSlot {}) (start {} sendingConnection 0 0)
        (fillWindow ++ stalledRun)).conn.state = .active ∧
      (runAll (step oneSlot {}) (start {} sendingConnection 0 0) (fillWindow ++ stalledRun)).now
          ≤ 0 + 15000000 + 10000000 + 2 * pollInterval + 3 * 0 := by
  refine ⟨rfl, (saturated_client_dropped oneSlot {} 0 sendingConnection 0 0 (Nat.le_refl _)
    (Nat.le_refl _) fillWindow stalledRun ?_ ?_ ?_ ?_).2 rfl⟩
  · refine ⟨trivial, trivial, trivial, trivial, trivial, trivial, fun due hdue => ?_, trivial, trivial,
      fun due hdue => ?_, trivial, trivial⟩ <;> cases hdue <;> decide
  · exact ⟨_, rfl, rfl, Nat.le_refl 1⟩
  · intro a ha channel sequence heq
    subst heq
    simp [stalledRun] at ha
  · refine ⟨fun h => ?_, fun h => ?_, fun h => ?_, fun h => ?_, fun h => ?_, fun h => ?_, trivial⟩ <;>
      cases h

end Watch

end Relay
