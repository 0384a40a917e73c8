/-
# The sender task over whole runs of one connection

A connection is driven by several tasks at once: fanout and the heartbeat call `enqueue`, the
frame loop calls `on_ack`, the sender task runs by itself, and the state may be set from outside.
`ConnAct` is one such call, `Connection.step` its effect, and a run is a list of them.

The header of `manager.py` says of control frames that they are "never flow-controlled", because
"they must still reach a client whose message window is saturated".  `enqueue` keeps this: a HIGH
frame is accepted over any bound.  The sender does not: HIGH and NORMAL frames share one FIFO, and
a HIGH frame waits for every NORMAL frame in front of it to get a window slot.  `high_sent_iff`
says exactly when the frame gets out without an ACK.
-/
import Mathlib
import Relay.Connection
import Relay.Lib.Run

namespace Relay

/-! ## 1. Runs of a connection -/

/-- One call on a connection, or one resumption of its sender. -/
inductive ConnAct
  | enqueue (payload : ServerFrame) (priority : Priority) (channel : Option Channel)
      (sequence : Option Int)
  | sender
  | ack (channel : Channel) (sequence : Int)
  | setState (state : ConnectionState)
  | sendFails
  | cancelSender

namespace Connection

/-- The effect of one call.  A refused `enqueue` and a sender that cannot move change nothing. -/
def step (env : Env) (c : Connection) : ConnAct → Connection
  | .enqueue payload priority channel sequence =>
    match c.enqueue env payload priority channel sequence with
    | .ok c' => c'
    | .error _ => c
  | .sender => (c.senderStep env).getD c
  | .ack channel sequence => (c.onAck env channel sequence).2
  | .setState state => { c with state := state }
  | .sendFails => c.sendFails
  | .cancelSender => c.cancelSender

/-- A connection as `handle_connection` builds it. -/
def fresh (connectionId : ConnId) (sessionId tenantId : String) : Connection :=
  { connectionId := connectionId, sessionId := sessionId, tenantId := tenantId, state := .active }

/-- The states a connection can get into. -/
def Reaches (env : Env) (c : Connection) : Prop :=
  ∃ connectionId sessionId tenantId acts,
    c = runAll (step env) (fresh connectionId sessionId tenantId) acts

/-! ## 2. No lost wake-up -/

/-- The item a parked sender holds is flow-controlled, and while the event is not set the window
is full. -/
def Parked (env : Env) (c : Connection) : Prop :=
  ∀ item, c.sender = .waiting item → item.priority = .normal ∧
    (c.windowEvent = false → env.settings.maxInflightMessages ≤ c.inflight.length)

theorem parked_of_not_waiting {env : Env} {c : Connection} (h : ∀ item, c.sender ≠ .waiting item) :
    c.Parked env := fun item hs => absurd hs (h item)

theorem parked_release {env : Env} (c : Connection) (item : QueuedMessage) :
    (c.release item).Parked env := by
  refine parked_of_not_waiting (fun x hx => ?_)
  unfold release at hx
  split at hx <;> simp at hx

theorem parked_waitForWindow {env : Env} (c : Connection) {item : QueuedMessage}
    (hp : item.priority = .normal) : (c.waitForWindow env item).Parked env := by
  rcases waitForWindow_cases env c item with ⟨hw, h⟩ | ⟨-, h⟩
  · rw [h]
    intro x hx
    simp only [Sender.waiting.injEq] at hx
    subst hx
    exact ⟨hp, fun _ => hw⟩
  · rw [h]
    exact parked_release c item

theorem parked_senderStep {env : Env} {c c' : Connection} (hi : c.Parked env)
    (h : c.senderStep env = some c') : c'.Parked env := by
  rcases senderStep_cases h with
    ⟨item, rest, -, -, ⟨hp, rfl⟩ | ⟨-, rfl⟩⟩ | ⟨item, hs, -, rfl⟩ | ⟨item, -, rfl⟩
  · exact parked_waitForWindow _ hp
  · exact parked_of_not_waiting (by simp)
  · exact parked_waitForWindow _ (hi item hs).1
  · refine parked_of_not_waiting (fun x hx => ?_)
    unfold senderLoop at hx
    split at hx <;> simp at hx

/-- An ACK either leaves the window full or sets the event. -/
theorem parked_onAck {env : Env} {c : Connection} (hi : c.Parked env) (channel : Channel)
    (sequence : Int) : (c.onAck env channel sequence).2.Parked env := by
  intro item hs
  refine ⟨(hi item hs).1, fun he => ?_⟩
  simp only [onAck] at he ⊢
  split at he
  · exact absurd he (by simp)
  · rename_i hlt
    exact Nat.le_of_not_lt hlt

theorem parked_step {env : Env} (c : Connection) (a : ConnAct) (hi : c.Parked env) :
    (c.step env a).Parked env := by
  cases a with
  | enqueue payload priority channel sequence =>
    simp only [step]
    split
    · rename_i c' h
      rcases enqueue_cases h with ⟨rfl, -⟩ | rfl
      · exact hi
      · exact hi
    · exact hi
  | sender =>
    simp only [step]
    cases h : c.senderStep env with
    | none => exact hi
    | some c' => exact parked_senderStep hi h
  | ack channel sequence => exact parked_onAck hi channel sequence
  | setState state => exact hi
  | sendFails =>
    simp only [step, sendFails]
    split
    · exact parked_of_not_waiting (by simp)
    · exact hi
  | cancelSender => exact parked_of_not_waiting (by simp [step, cancelSender])

theorem Reaches.parked {env : Env} {c : Connection} (h : Reaches env c) : c.Parked env := by
  obtain ⟨cid, sid, tid, acts, rfl⟩ := h
  exact runAll_invariant' (fun s a hs => parked_step s a hs) acts _
    (parked_of_not_waiting (by simp [fresh]))

/-! ## 3. The sender alone -/

/-- `n` resumptions of the sender and nothing else; it stays where it is once it is blocked. -/
def senderRun (env : Env) : Nat → Connection → Connection
  | 0, c => c
  | n + 1, c =>
    match c.senderStep env with
    | some c' => senderRun env n c'
    | none => c

/-- Sender steps alone bring the socket to `target`. -/
def Sends (env : Env) (c : Connection) (target : List ServerFrame) : Prop :=
  ∃ n, (senderRun env n c).wire = target

theorem senderRun_blocked {env : Env} {c : Connection} (h : c.senderStep env = none) :
    ∀ n, senderRun env n c = c
  | 0 => rfl
  | n + 1 => by simp only [senderRun, h]

theorem sends_blocked {env : Env} {c : Connection} {target : List ServerFrame}
    (h : c.senderStep env = none) : Sends env c target ↔ c.wire = target := by
  constructor
  · rintro ⟨n, hn⟩
    rwa [senderRun_blocked h] at hn
  · intro hw
    exact ⟨0, hw⟩

theorem sends_step {env : Env} {c c' : Connection} {target : List ServerFrame}
    (h : c.senderStep env = some c') (hw : c.wire ≠ target) :
    Sends env c target ↔ Sends env c' target := by
  constructor
  · rintro ⟨n, hn⟩
    cases n with
    | zero => exact absurd hn hw
    | succ n =>
      simp only [senderRun, h] at hn
      exact ⟨n, hn⟩
  · rintro ⟨n, hn⟩
    refine ⟨n + 1, ?_⟩
    simp only [senderRun, h]
    exact hn

/-! ## 4. When a queued frame gets out -/

/-- The window slots a list of items takes when it is sent: one for each NORMAL frame that
carries a channel and a sequence. -/
def slotsOf (l : List QueuedMessage) : Nat :=
  (l.filter (fun item => decide (item.priority = .normal) && item.slot.isSome)).length

/-- With `n` slots taken out of `w`, every NORMAL item of the list finds a free slot when its
turn comes and no ACK arrives. -/
def WindowAdmits (w n : Nat) (l : List QueuedMessage) : Prop :=
  ∀ ahead item behind, l = ahead ++ item :: behind → item.priority = .normal →
    n + slotsOf ahead < w

theorem windowAdmits_nil (w n : Nat) : WindowAdmits w n [] := by
  intro ahead item behind h
  exact absurd h (by simp)

theorem slotsOf_cons (item : QueuedMessage) (l : List QueuedMessage) :
    slotsOf (item :: l) = slotsOf [item] + slotsOf l := by
  simp only [slotsOf, List.filter_cons, List.filter_nil]
  split <;> simp [Nat.add_comm]

theorem windowAdmits_cons {w n : Nat} {item : QueuedMessage} {l : List QueuedMessage} :
    WindowAdmits w n (item :: l) ↔
      (item.priority = .normal → n < w) ∧ WindowAdmits w (n + slotsOf [item]) l := by
  constructor
  · intro h
    refine ⟨fun hp => by simpa [slotsOf] using h [] item l rfl hp, ?_⟩
    intro ahead x behind hl hx
    have := h (item :: ahead) x behind (by rw [hl]; rfl) hx
    rw [slotsOf_cons] at this
    omega
  · rintro ⟨h1, h2⟩ ahead x behind hl hx
    cases ahead with
    | nil =>
      simp only [List.nil_append, List.cons.injEq] at hl
      have := h1 (hl.1 ▸ hx)
      simpa [slotsOf] using this
    | cons y ahead =>
      simp only [List.cons_append, List.cons.injEq] at hl
      obtain ⟨rfl, hl⟩ := hl
      have := h2 ahead x behind hl hx
      rw [slotsOf_cons]
      omega

theorem slotsOf_normal {item : QueuedMessage} (h : item.priority = .normal) :
    slotsOf [item] = item.slot.toList.length := by
  simp only [slotsOf, List.filter_cons, List.filter_nil, h, decide_true, Bool.true_and]
  cases item.slot <;> simp

theorem slotsOf_not_normal {item : QueuedMessage} (h : item.priority ≠ .normal) :
    slotsOf [item] = 0 := by
  simp [slotsOf, h]

/-- Writing the item in flight and going back to `queue.get()`. -/
theorem senderStep_sending (env : Env) {c : Connection} {item : QueuedMessage}
    (hs : c.sender = .sending item) (ha : c.state = .active) :
    c.senderStep env = some { c with wire := c.wire ++ [item.payload], sender := .getting } := by
  unfold senderStep
  rw [hs]
  simp [senderLoop, open_, ha]

theorem waitForWindow_room {env : Env} {c : Connection} {item : QueuedMessage}
    (ha : c.state = .active) (hw : c.inflight.length < env.settings.maxInflightMessages) :
    c.waitForWindow env item = { c with
      inflight := c.inflight ++ item.slot.toList, sender := .sending item } := by
  rw [waitForWindow, if_neg (Nat.not_le.mpr hw)]
  simp [release, open_, ha]

theorem waitForWindow_full {env : Env} {c : Connection} {item : QueuedMessage}
    (hw : ¬ c.inflight.length < env.settings.maxInflightMessages) :
    c.waitForWindow env item = { c with windowEvent := false, sender := .waiting item } := by
  rw [waitForWindow, if_pos (Nat.le_of_not_lt hw)]

/-- A write in progress completes, and the rest is up to the next `queue.get()`. -/
theorem sends_sending {env : Env} {c : Connection} {item : QueuedMessage}
    {rest : List ServerFrame} (hs : c.sender = .sending item) (ha : c.state = .active) :
    Sends env c (c.wire ++ item.payload :: rest) ↔
      Sends env { c with wire := c.wire ++ [item.payload], sender := .getting }
        (c.wire ++ [item.payload] ++ rest) := by
  rw [sends_step (senderStep_sending env hs ha) (by simp), List.append_assoc, List.singleton_append]

/-- A sender that parks with a full window never writes again by itself. -/
theorem not_sends_parked {env : Env} {c : Connection} {item : QueuedMessage}
    {x : ServerFrame} {rest : List ServerFrame} :
    ¬ Sends env { c with windowEvent := false, sender := .waiting item }
      (c.wire ++ x :: rest) := by
  rw [sends_blocked (by simp [senderStep])]
  simp

/-- From `queue.get()`, a frame with `l` in front of it gets out exactly when the window admits
every NORMAL item of `l`.  Induction on `l`: each item is dequeued, passes or fails the window
test, and is written. -/
theorem sends_getting (env : Env) {x : QueuedMessage} {post : List QueuedMessage}
    (hx : x.priority ≠ .normal) : ∀ (l : List QueuedMessage) (c : Connection),
    c.sender = .getting → c.state = .active → c.queue = l ++ x :: post →
      (Sends env c (c.wire ++ (l ++ [x]).map QueuedMessage.payload) ↔
        WindowAdmits env.settings.maxInflightMessages c.inflight.length l)
  | [], c, hs, ha, hq => by
    have h1 : c.senderStep env = some { c with
        queue := post, queueBytes := c.queueBytes - x.sizeBytes, sender := .sending x } := by
      unfold senderStep
      simp [hs, hq, hx]
    have h2 := senderStep_sending env (c := { c with
        queue := post, queueBytes := c.queueBytes - x.sizeBytes, sender := .sending x }) rfl ha
    refine ⟨fun _ => windowAdmits_nil _ _, fun _ => ⟨2, ?_⟩⟩
    simp only [senderRun, h1, h2, List.nil_append, List.map_cons, List.map_nil]
  | y :: l, c, hs, ha, hq => by
    simp only [List.cons_append, List.map_cons]
    rw [windowAdmits_cons]
    -- the connection with `y` taken off the queue
    let d : Connection := { c with
      queue := l ++ x :: post, queueBytes := c.queueBytes - y.sizeBytes }
    by_cases hy : y.priority = .normal
    · have h1 : c.senderStep env = some (d.waitForWindow env y) := by
        unfold senderStep
        simp [hs, hq, hy, d]
      rw [sends_step h1 (by simp)]
      by_cases hw : c.inflight.length < env.settings.maxInflightMessages
      · -- the window has room: `y` takes its slot and is written
        rw [waitForWindow_room (c := d) ha hw]
        rw [sends_sending (c := { d with
          inflight := d.inflight ++ y.slot.toList, sender := .sending y }) rfl ha]
        have ih := sends_getting env hx l { d with
          inflight := d.inflight ++ y.slot.toList, wire := d.wire ++ [y.payload],
          sender := .getting } rfl ha rfl
        simp only [List.length_append] at ih
        rw [slotsOf_normal hy]
        exact ⟨fun h => ⟨fun _ => hw, ih.mp h⟩, fun h => ih.mpr h.2⟩
      · -- the window is full: the sender parks with `y` and stays there
        rw [waitForWindow_full (c := d) hw]
        exact ⟨fun h => absurd h (not_sends_parked (c := d)), fun h => absurd (h.1 hy) hw⟩
    · have h1 : c.senderStep env = some { d with sender := .sending y } := by
        unfold senderStep
        simp [hs, hq, hy, d]
      rw [sends_step h1 (by simp), sends_sending (c := { d with sender := .sending y }) rfl ha]
      have ih := sends_getting env hx l { d with
        wire := d.wire ++ [y.payload], sender := .getting } rfl ha rfl
      rw [slotsOf_not_normal hy]
      exact ⟨fun h => ⟨fun hn => absurd hn hy, ih.mp h⟩, fun h => ih.mpr h.2⟩

/-- The items ahead of a frame that have not passed the window test yet: all of them, except one
whose write has already started. -/
def unreleased (c : Connection) (ahead : List QueuedMessage) : List QueuedMessage :=
  match c.sender with
  | .sending _ => ahead.tail
  | _ => ahead

/-- **When a control frame gets out.**  In a reachable ACTIVE connection with its sender running,
a HIGH frame with `ahead` in front of it is written by sender steps alone if and only if every
NORMAL frame of `ahead` that has no slot yet would find one: the slots taken now, plus those the
frames before it will take, stay below `max_inflight_messages`. -/
theorem high_sent_iff (env : Env) (c : Connection) (hr : Reaches env c) (ha : c.state = .active)
    (hrun : c.sender ≠ .exited) (ahead behind : List QueuedMessage) (x : QueuedMessage)
    (hp : c.pending = ahead ++ x :: behind) (hx : x.priority = .high) :
    (∃ n, (senderRun env n c).wire = c.wire ++ (ahead ++ [x]).map QueuedMessage.payload) ↔
      WindowAdmits env.settings.maxInflightMessages c.inflight.length (c.unreleased ahead) := by
  have hxn : x.priority ≠ .normal := by rw [hx]; decide
  show Sends env c _ ↔ _
  cases hs : c.sender with
  | exited => exact absurd hs hrun
  | getting =>
    simp only [pending, held, hs, List.nil_append] at hp
    simp only [unreleased, hs]
    exact sends_getting env hxn ahead c hs ha hp
  | sending y =>
    simp only [pending, held, hs, List.singleton_append] at hp
    simp only [unreleased, hs]
    cases ahead with
    | nil =>
      -- the frame itself is being written
      simp only [List.nil_append, List.cons.injEq] at hp
      refine ⟨fun _ => windowAdmits_nil _ _, fun _ => ⟨1, ?_⟩⟩
      simp only [senderRun, senderStep_sending env hs ha, hp.1, List.nil_append, List.map_cons,
        List.map_nil]
    | cons z l =>
      simp only [List.cons_append, List.cons.injEq] at hp
      obtain ⟨rfl, hq⟩ := hp
      simp only [List.cons_append, List.map_cons]
      rw [sends_sending hs ha]
      exact sends_getting env hxn l
        { c with wire := c.wire ++ [y.payload], sender := .getting } rfl ha hq
  | waiting y =>
    obtain ⟨hy, hfull⟩ := hr.parked y hs
    simp only [pending, held, hs, List.singleton_append] at hp
    simp only [unreleased, hs]
    cases ahead with
    | nil =>
      simp only [List.nil_append, List.cons.injEq] at hp
      exact absurd (hp.1 ▸ hy) hxn
    | cons z l =>
      simp only [List.cons_append, List.cons.injEq] at hp
      obtain ⟨rfl, hq⟩ := hp
      simp only [List.cons_append, List.map_cons]
      rw [windowAdmits_cons]
      by_cases hw : c.inflight.length < env.settings.maxInflightMessages
      · -- room again, so the event is set: the sender wakes up and writes `y`
        have he : c.windowEvent = true := by
          by_contra h
          have := hfull (by simpa using h)
          omega
        have h1 : c.senderStep env = some { c with
            inflight := c.inflight ++ y.slot.toList, sender := .sending y } := by
          unfold senderStep
          rw [hs]
          simp only
          rw [if_pos he, waitForWindow_room ha hw]
        rw [sends_step h1 (by simp), sends_sending (c := { c with
          inflight := c.inflight ++ y.slot.toList, sender := .sending y }) rfl ha]
        have ih := sends_getting env hxn l { c with
            inflight := c.inflight ++ y.slot.toList,
            wire := c.wire ++ [y.payload], sender := .getting } rfl ha hq
        simp only [List.length_append] at ih
        rw [slotsOf_normal hy]
        exact ⟨fun h => ⟨fun _ => hw, ih.mp h⟩, fun h => ih.mpr h.2⟩
      · -- still full: parked, or parked again after one look
        have hno : ¬ Sends env c
            (c.wire ++ y.payload :: (l ++ [x]).map QueuedMessage.payload) := by
          cases he : c.windowEvent with
          | false =>
            rw [sends_blocked (by simp [senderStep, hs, he])]
            simp
          | true =>
            have h1 : c.senderStep env = some { c with
                windowEvent := false, sender := .waiting y } := by
              unfold senderStep
              rw [hs]
              simp only
              rw [if_pos he, waitForWindow_full hw]
            rw [sends_step h1 (by simp)]
            exact not_sends_parked
        exact ⟨fun h => absurd h hno, fun h => absurd (h.1 hy) hw⟩

/-! ## 5. A saturated window -/

/-- A NORMAL frame carrying message `n` of a channel. -/
def sampleMessage (n : Int) : ConnAct :=
  .enqueue (.message ⟨"m", "t-a:c", n, 0, .obj []⟩) .normal (some "t-a:c") (some n)

/-- A PING as `run_heartbeat` enqueues it. -/
def samplePing : ConnAct := .enqueue (.ping 0) .high none none

/-- Two messages and a PING with a window of one: the sender has written the first message and
holds the second. -/
def saturated : Connection :=
  runAll (step (.plain { maxInflightMessages := 1 })) (fresh "conn-1" "s" "a")
    [sampleMessage 1, sampleMessage 2, .sender, .sender, .sender, samplePing]

/-- The PING is never written by the sender alone. -/
theorem ping_stuck_behind_full_window :
    Reaches (.plain { maxInflightMessages := 1 }) saturated ∧ saturated.state = .active ∧
      saturated.sender ≠ .exited ∧
      ∃ ahead x behind, saturated.pending = ahead ++ x :: behind ∧ x.priority = .high ∧
        ¬ ∃ n, (senderRun (.plain { maxInflightMessages := 1 }) n saturated).wire
          = saturated.wire ++ (ahead ++ [x]).map QueuedMessage.payload := by
  refine ⟨⟨_, _, _, _, rfl⟩, rfl, by simp [saturated, runAll, step, sampleMessage, samplePing,
    enqueue, overLimit, fresh, Env.plain, put, senderStep, waitForWindow, release, open_,
    senderLoop, QueuedMessage.slot], saturated.held, ⟨.ping 0, 64, .high, none, none⟩, [],
    rfl, rfl, ?_⟩
  rintro ⟨n, hn⟩
  rw [senderRun_blocked (rfl : saturated.senderStep (.plain { maxInflightMessages := 1 }) = none)]
    at hn
  have := congrArg List.length hn
  simp at this

/-- The same traffic with a window of two: the condition holds and the PING gets out. -/
theorem ping_sent_with_room :
    ∃ n, (senderRun (.plain { maxInflightMessages := 2 }) n
        (runAll (step (.plain { maxInflightMessages := 2 })) (fresh "conn-1" "s" "a")
          [sampleMessage 1, sampleMessage 2, samplePing])).wire
      = [.message ⟨"m", "t-a:c", 1, 0, .obj []⟩, .message ⟨"m", "t-a:c", 2, 0, .obj []⟩,
          .ping 0] := by
  refine (high_sent_iff (.plain { maxInflightMessages := 2 })
    (runAll (step (.plain { maxInflightMessages := 2 })) (fresh "conn-1" "s" "a")
      [sampleMessage 1, sampleMessage 2, samplePing]) ⟨_, _, _, _, rfl⟩ rfl ?_
    [⟨.message ⟨"m", "t-a:c", 1, 0, .obj []⟩, 64, .normal, some "t-a:c", some 1⟩,
      ⟨.message ⟨"m", "t-a:c", 2, 0, .obj []⟩, 64, .normal, some "t-a:c", some 2⟩] []
    ⟨.ping 0, 64, .high, none, none⟩ rfl rfl).mpr ?_
  · intro h
    cases h
  · show WindowAdmits 2 0 [_, _]
    exact windowAdmits_cons.mpr ⟨fun _ => by decide,
      windowAdmits_cons.mpr ⟨fun _ => by decide, windowAdmits_nil _ _⟩⟩

end Connection

end Relay
