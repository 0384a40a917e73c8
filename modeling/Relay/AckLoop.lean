/-
# The window and the client

One server connection and one client over a lossless FIFO socket.  The server takes a slot for every
message it sends and frees it on an ACK of the channel at or above the slot that comes AFTER the
send.  The client sends an ACK only if it advances its own position.  So a message whose sequence the
client has already passed -- one that was overtaken, or comes twice -- gets no ACK of its own, and
its slot stays taken unless an ACK that is still on its way covers it.

`window_drains_iff`: the window is empty whenever everything sent has been handled, in every
interleaving, exactly if the messages of each channel come in strictly ascending order, above the
client's position.
-/
import Mathlib
import Relay.Client
import Relay.Window

namespace Relay

/-! ## 1. The loop -/

/-- A connection and a client, with what is still to be enqueued, how many frames the client has
taken from the socket, and how many ACKs the server has. -/
structure AckLoop where
  conn : Connection
  client : RelayClient
  rest : List MessageFrame
  taken : Nat := 0
  processed : Nat := 0

/-- One step of one of the four parties. -/
inductive LoopAct
  /-- The next message is enqueued. -/
  | enqueue
  | sender
  /-- The client handles the next frame on the socket. -/
  | client
  /-- The frame loop handles the next ACK. -/
  | server

/-- What `enqueue` puts in the queue for a message, when it accepts it. -/
def MessageFrame.item (env : Env) (m : MessageFrame) : QueuedMessage :=
  ⟨.message m, env.wireSize (.message m), .normal, some m.channel, some m.sequence⟩

namespace AckLoop

variable (env : Env) (opts : ClientOptions)

/-- Frames on their way to the client. -/
def toClient (s : AckLoop) : List ServerFrame := s.conn.wire.drop s.taken

/-- Frames on their way to the server. -/
def toServer (s : AckLoop) : List ClientFrame := s.client.sent.drop s.processed

/-- One step. -/
def step (s : AckLoop) : LoopAct → AckLoop
  | .enqueue =>
    match s.rest with
    | [] => s
    | m :: rest => { s with conn := s.conn.put (m.item env), rest := rest }
  | .sender => { s with conn := (s.conn.senderStep env).getD s.conn }
  | .client =>
    match s.toClient with
    | .message m :: _ => { s with client := s.client.handleMessage opts m, taken := s.taken + 1 }
    | _ => s
  | .server =>
    match s.toServer with
    | .ack channel sequence :: _ =>
      { s with conn := (s.conn.onAck env channel sequence).2, processed := s.processed + 1 }
    | _ => s

/-- Nothing is in flight in either direction and no write is in progress; the client has handled
what it received. -/
def Drained (s : AckLoop) : Prop :=
  s.toClient = [] ∧ s.toServer = [] ∧ ∀ item, s.conn.sender ≠ .sending item

/-- A connection just established, a client, and the messages to come. -/
def start (connectionId : ConnId) (sessionId tenantId : String) (client : RelayClient)
    (messages : List MessageFrame) : AckLoop where
  conn := Connection.fresh connectionId sessionId tenantId
  client := { client with sent := [] }
  rest := messages

/-- The messages of each channel are strictly ascending and above the client's position. -/
def Ascending (client : RelayClient) (messages : List MessageFrame) : Prop :=
  (∀ m ∈ messages, client.acked m.channel < m.sequence) ∧
    messages.Pairwise (fun m m' => m.channel = m'.channel → m.sequence < m'.sequence)

/-! ## 2. What the client does with a message -/

/-- The position after an ACK. -/
theorem acked_ack (channel d : Channel) (sequence : Int) (c : RelayClient) :
    (c.ack channel sequence).acked d
      = if d = channel then max (c.acked channel) sequence else c.acked d := by
  rcases RelayClient.ack_cases channel sequence c with ⟨hle, h⟩ | ⟨hlt, hlast, -⟩
  · rw [h]
    split
    · rename_i hd
      rw [hd, max_eq_left hle]
    · rfl
  · rw [RelayClient.acked, hlast, Dict.getD_set, max_eq_right hlt.le]
    rfl

/-- What `handleMessage` with autoAck does besides calling the application: it acknowledges. -/
structure Acknowledges (m : MessageFrame) (c c' : RelayClient) : Prop where
  connected : c'.connected = c.connected
  acked : ∀ d, c'.acked d = if d = m.channel then max (c.acked m.channel) m.sequence else c.acked d
  sent : c'.sent = c.sent ++ if c.connected && decide (c.acked m.channel < m.sequence)
    then [.ack m.channel m.sequence] else []

theorem acknowledges_ack (m : MessageFrame) (c : RelayClient) :
    Acknowledges m c (c.ack m.channel m.sequence) := by
  refine ⟨?_, fun d => acked_ack m.channel d m.sequence c, ?_⟩
  · rcases RelayClient.ack_cases m.channel m.sequence c with ⟨-, h⟩ | ⟨-, -, h, -⟩
    · rw [h]
    · exact h
  · rcases RelayClient.ack_cases m.channel m.sequence c with ⟨hle, h⟩ | ⟨hlt, -, -, -, h⟩
    · rw [h, decide_eq_false (Int.not_lt.mpr hle), Bool.and_false]
      exact (List.append_nil _).symm
    · rw [h, decide_eq_true hlt, Bool.and_true]

/-- Callbacks and the dedup window do not matter. -/
theorem Acknowledges.congr {m : MessageFrame} {c c₁ c' : RelayClient} (h : Acknowledges m c₁ c')
    (hsent : c₁.sent = c.sent) (hlast : c₁.lastAck = c.lastAck) (hconn : c₁.connected = c.connected) :
    Acknowledges m c c' := by
  have hacked : ∀ d, c₁.acked d = c.acked d := fun d => by
    rw [RelayClient.acked, hlast, RelayClient.acked]
  refine ⟨h.connected.trans hconn, fun d => ?_, ?_⟩
  · rw [h.acked, hacked, hacked]
  · rw [h.sent, hsent, hconn, hacked]

variable {opts} in
theorem acknowledges_settle (hauto : opts.autoAck = true) (m : MessageFrame) :
    ∀ (handlers : List String) (c : RelayClient), Acknowledges m c (c.settle opts m handlers) := by
  intro handlers
  induction handlers with
  | nil =>
    intro c
    rw [RelayClient.settle, RelayClient.finish, if_pos hauto]
    exact acknowledges_ack m c
  | cons handler rest ih =>
    intro c
    exact (ih (c.emit (.message handler m))).congr rfl rfl rfl

variable {opts} in
/-- **Whether new or a duplicate, a message is acknowledged if it advances the position.** -/
theorem acknowledges_handleMessage (hauto : opts.autoAck = true) (m : MessageFrame)
    (c : RelayClient) : Acknowledges m c (c.handleMessage opts m) := by
  unfold RelayClient.handleMessage RelayClient.arrive
  by_cases hseen : m.messageId ∈ c.seenIds
  · simp only [if_pos hseen, RelayClient.finish, if_pos hauto]
    exact (acknowledges_ack m (c.emit (.duplicate m.channel m.messageId))).congr rfl rfl rfl
  · simp only [if_neg hseen]
    obtain ⟨hsent, hlast, hconn, -⟩ :=
      RelayClient.noteSequence_frame m (c.rememberId opts m.messageId)
    exact (acknowledges_settle hauto m _ _).congr hsent hlast hconn

/-! ## 3. In ascending order every slot has somebody who will free it -/

/-- The messages the client has still to handle. -/
def ahead (s : AckLoop) : List MessageFrame :=
  s.toClient.filterMap ServerFrame.message? ++
    (s.conn.pending.filterMap (fun item => item.payload.message?) ++ s.rest)

/-- The slot's message is on its way to the client, or an ACK that covers it to the server. -/
def Home (env : Env) (s : AckLoop) (slot : Channel × Int) : Prop :=
  (∃ m : MessageFrame, (m.channel, m.sequence) = slot ∧
    (.message m ∈ s.toClient ∨ s.conn.sender = .sending (m.item env))) ∨
  ∃ n, .ack slot.1 n ∈ s.toServer ∧ slot.2 ≤ n

/-- A loop in which the messages ahead are ascending. -/
structure Flowing (env : Env) (s : AckLoop) : Prop where
  active : s.conn.state = .active
  items : ∀ item ∈ s.conn.pending, ∃ m : MessageFrame, item = m.item env
  taken : s.taken ≤ s.conn.wire.length
  processed : s.processed ≤ s.client.sent.length
  connected : s.client.connected = true
  ascending : Ascending s.client s.ahead
  home : ∀ slot ∈ s.conn.inflight, s.Home env slot

section Steps

variable {env opts} {s : AckLoop} {m : MessageFrame}

theorem flowing_enqueue (h : Flowing env s) : Flowing env (s.step env opts .enqueue) := by
  simp only [step]
  split
  · exact h
  · rename_i m rest hrest
    constructor
    · exact h.active
    · intro item hitem
      rw [Connection.pending_put] at hitem
      rcases List.mem_append.mp hitem with hitem | hitem
      · exact h.items item hitem
      · exact ⟨m, List.mem_singleton.mp hitem⟩
    · exact h.taken
    · exact h.processed
    · exact h.connected
    · have hahead : ({ s with conn := s.conn.put (m.item env), rest := rest } : AckLoop).ahead
          = s.ahead := by
        simp only [ahead, Connection.pending_put, List.filterMap_append, hrest, toClient,
          Connection.put_wire]
        simp [MessageFrame.item, ServerFrame.message?]
      rw [hahead]
      exact h.ascending
    · exact h.home

/-- The window test of an item: the item stays ahead, and takes a slot when its write begins. -/
theorem flowing_waitForWindow (h : Flowing env s) {c : Connection} (hitem : c.state = .active)
    (hwire : c.wire = s.conn.wire) (hinflight : c.inflight = s.conn.inflight)
    (hpending : s.conn.pending = m.item env :: c.queue)
    (hnot : ∀ item, s.conn.sender ≠ .sending item) :
    Flowing env { s with conn := c.waitForWindow env (m.item env) } := by
  have hhome : ∀ slot ∈ s.conn.inflight, ∀ conn : Connection, conn.wire = s.conn.wire →
      ({ s with conn := conn } : AckLoop).Home env slot := by
    intro slot hslot conn hw
    rcases h.home slot hslot with ⟨m', hm', hcl | hs⟩ | hack
    · refine Or.inl ⟨m', hm', Or.inl ?_⟩
      rw [toClient, hw]
      exact hcl
    · exact absurd hs (hnot _)
    · exact Or.inr hack
  have hstate : ∀ conn : Connection, conn.state = .active → conn.wire = s.conn.wire →
      conn.pending = s.conn.pending → (∀ slot ∈ conn.inflight,
        ({ s with conn := conn } : AckLoop).Home env slot) →
      Flowing env { s with conn := conn } := by
    intro conn ha hw hp hh
    refine ⟨ha, ?_, ?_, h.processed, h.connected, ?_, hh⟩
    · rw [hp]
      exact h.items
    · rw [hw]
      exact h.taken
    · have hahead : ({ s with conn := conn } : AckLoop).ahead = s.ahead := by
        simp only [ahead, toClient, hw, hp]
      rw [hahead]
      exact h.ascending
  rcases Connection.waitForWindow_cases env c (m.item env) with ⟨-, hw⟩ | ⟨-, hw⟩
  · rw [hw]
    refine hstate _ hitem hwire hpending.symm (fun slot hslot => ?_)
    rw [show ({ c with windowEvent := false, sender := .waiting (m.item env) } : Connection).inflight
      = s.conn.inflight from hinflight] at hslot
    exact hhome slot hslot _ hwire
  · have hopen : c.open_ = true := by simp [Connection.open_, hitem]
    rw [hw, Connection.release, if_pos hopen]
    refine hstate _ hitem hwire hpending.symm (fun slot hslot => ?_)
    rcases List.mem_append.mp hslot with hslot | hslot
    · exact hhome slot (hinflight ▸ hslot) _ hwire
    · have : slot = (m.channel, m.sequence) := by
        simpa [MessageFrame.item, QueuedMessage.slot] using hslot
      exact Or.inl ⟨m, this.symm, Or.inr rfl⟩

theorem flowing_sender (h : Flowing env s) : Flowing env (s.step env opts .sender) := by
  simp only [step]
  cases hstep : s.conn.senderStep env with
  | none => exact h
  | some c' =>
    rw [Option.getD_some]
    rcases Connection.senderStep_cases hstep with
      ⟨item, rest, hs, hq, hcase⟩ | ⟨item, hs, -, rfl⟩ | ⟨item, hs, rfl⟩
    · have hpending : s.conn.pending = item :: rest := by
        simp [Connection.pending, Connection.held, hs, hq]
      obtain ⟨m, rfl⟩ := h.items item (hpending ▸ List.mem_cons_self)
      have hidle : ∀ item', s.conn.sender ≠ .sending item' := by
        intro item' hsend
        cases hs.symm.trans hsend
      rcases hcase with ⟨-, rfl⟩ | ⟨hp, -⟩
      · exact flowing_waitForWindow h h.active rfl rfl hpending hidle
      · exact absurd rfl hp
    · have hpending : s.conn.pending = item :: s.conn.queue := by
        simp [Connection.pending, Connection.held, hs]
      obtain ⟨m, rfl⟩ := h.items item (hpending ▸ List.mem_cons_self)
      have hidle : ∀ item', s.conn.sender ≠ .sending item' := by
        intro item' hsend
        cases hs.symm.trans hsend
      exact flowing_waitForWindow h h.active rfl rfl hpending hidle
    · have hpending : s.conn.pending = item :: s.conn.queue := by
        simp [Connection.pending, Connection.held, hs]
      obtain ⟨m, rfl⟩ := h.items item (hpending ▸ List.mem_cons_self)
      have hopen : ({ s.conn with wire := s.conn.wire ++ [.message m] } : Connection).open_
          = true := by simp [Connection.open_, h.active]
      have hclient : (s.conn.wire ++ [ServerFrame.message m]).drop s.taken
          = s.toClient ++ [.message m] := List.drop_append_of_le_length h.taken
      rw [Connection.senderLoop, show (m.item env).payload = .message m from rfl, if_pos hopen]
      constructor
      · exact h.active
      · intro item hitem
        exact h.items item (hpending ▸ List.mem_cons_of_mem _ hitem)
      · exact h.taken.trans (by simp)
      · exact h.processed
      · exact h.connected
      · have hahead : ({ s with conn := { s.conn with
            wire := s.conn.wire ++ [.message m], sender := .getting } } : AckLoop).ahead
            = s.ahead := by
          simp only [ahead, toClient, hclient, hpending, List.filterMap_append]
          simp [Connection.pending, Connection.held, MessageFrame.item, ServerFrame.message?]
        rw [hahead]
        exact h.ascending
      · intro slot hslot
        rcases h.home slot hslot with ⟨m', hm', hcl | hsend⟩ | hack
        · refine Or.inl ⟨m', hm', Or.inl ?_⟩
          rw [toClient, hclient]
          exact List.mem_append_left _ hcl
        · -- the write that was in progress is done
          have hmm : m.item env = m'.item env := Sender.sending.inj (hs.symm.trans hsend)
          have hpay : ServerFrame.message m = .message m' := congrArg QueuedMessage.payload hmm
          refine Or.inl ⟨m', hm', Or.inl ?_⟩
          rw [toClient, hclient, ← hpay]
          exact List.mem_append_right _ (List.mem_singleton_self _)
        · exact Or.inr hack

theorem flowing_client (hauto : opts.autoAck = true) (h : Flowing env s) :
    Flowing env (s.step env opts .client) := by
  simp only [step]
  split
  · rename_i m rest hcl
    have hack := acknowledges_handleMessage hauto m s.client
    have hahead : s.ahead = m :: ({ s with
        client := s.client.handleMessage opts m, taken := s.taken + 1 } : AckLoop).ahead := by
      simp only [ahead, toClient, ← List.drop_drop]
      rw [show s.conn.wire.drop s.taken = _ from hcl]
      rfl
    have hasc := h.ascending
    rw [hahead] at hasc
    obtain ⟨habove, hpair⟩ := hasc
    obtain ⟨hhead, htail⟩ := List.pairwise_cons.mp hpair
    have hlt : s.client.acked m.channel < m.sequence := habove m List.mem_cons_self
    have hsent : (s.client.handleMessage opts m).sent
        = s.client.sent ++ [.ack m.channel m.sequence] := by
      rw [hack.sent, h.connected, decide_eq_true hlt]
      rfl
    have hserver : (s.client.handleMessage opts m).sent.drop s.processed
        = s.toServer ++ [.ack m.channel m.sequence] := by
      rw [hsent]
      exact List.drop_append_of_le_length h.processed
    constructor
    · exact h.active
    · exact h.items
    · have hlen : s.toClient.length = rest.length + 1 := by rw [hcl]; rfl
      simp only [toClient, List.length_drop] at hlen
      show s.taken + 1 ≤ s.conn.wire.length
      omega
    · rw [hsent, List.length_append]
      exact h.processed.trans (Nat.le_add_right _ _)
    · rw [hack.connected]
      exact h.connected
    · refine ⟨fun m' hm' => ?_, htail⟩
      rw [hack.acked]
      split
      · rename_i hch
        have := hhead m' hm' hch.symm
        exact max_lt (hlt.trans this) this
      · exact habove m' (List.mem_cons_of_mem _ hm')
    · intro slot hslot
      rcases h.home slot hslot with ⟨m', rfl, hm' | hsend⟩ | ⟨n, hn, hle⟩
      · rw [hcl] at hm'
        rcases List.mem_cons.mp hm' with heq | hm'
        · -- the message the client has just acknowledged
          obtain rfl : m' = m := ServerFrame.message.inj heq
          refine Or.inr ⟨m'.sequence, ?_, Int.le_refl _⟩
          rw [toServer, hserver]
          exact List.mem_append_right _ (List.mem_singleton_self _)
        · refine Or.inl ⟨m', rfl, Or.inl ?_⟩
          simp only [toClient, ← List.drop_drop]
          rw [show s.conn.wire.drop s.taken = _ from hcl]
          exact hm'
      · exact Or.inl ⟨m', rfl, Or.inr hsend⟩
      · refine Or.inr ⟨n, ?_, hle⟩
        rw [toServer, hserver]
        exact List.mem_append_left _ hn
  · exact h

theorem flowing_server (h : Flowing env s) : Flowing env (s.step env opts .server) := by
  simp only [step]
  split
  · rename_i channel sequence rest hsv
    have hnext : s.client.sent.drop (s.processed + 1) = rest := by
      rw [← List.drop_drop, show s.client.sent.drop s.processed = _ from hsv]
      rfl
    constructor
    · exact h.active
    · exact h.items
    · exact h.taken
    · have hlen : s.toServer.length = rest.length + 1 := by rw [hsv]; rfl
      simp only [toServer, List.length_drop] at hlen
      show s.processed + 1 ≤ s.client.sent.length
      omega
    · exact h.connected
    · exact h.ascending
    · intro slot hslot
      simp only [Connection.onAck, List.mem_filter] at hslot
      obtain ⟨hslot, hnot⟩ := hslot
      rcases h.home slot hslot with ⟨m', hm', hcl | hs⟩ | ⟨n, hn, hle⟩
      · exact Or.inl ⟨m', hm', Or.inl hcl⟩
      · exact Or.inl ⟨m', hm', Or.inr hs⟩
      · rw [hsv] at hn
        rcases List.mem_cons.mp hn with heq | hn
        · -- this ACK frees every slot it covers
          obtain ⟨hc, hsq⟩ := ClientFrame.ack.inj heq
          simp [hc, ← hsq, hle] at hnot
        · refine Or.inr ⟨n, ?_, hle⟩
          rw [toServer, hnext]
          exact hn
  · exact h

theorem flowing_step (hauto : opts.autoAck = true) (h : Flowing env s) (a : LoopAct) :
    Flowing env (s.step env opts a) := by
  cases a with
  | enqueue => exact flowing_enqueue h
  | sender => exact flowing_sender h
  | client => exact flowing_client hauto h
  | server => exact flowing_server h

/-- Nobody is left who would free a slot, so there is none. -/
theorem Flowing.drained (h : Flowing env s) (hd : s.Drained) : s.conn.inflight = [] := by
  obtain ⟨hclient, hserver, hsender⟩ := hd
  refine List.eq_nil_iff_forall_not_mem.mpr (fun slot hslot => ?_)
  rcases h.home slot hslot with ⟨m', -, hcl | hs⟩ | ⟨n, hn, -⟩
  · rw [hclient] at hcl
    exact absurd hcl List.not_mem_nil
  · exact hsender _ hs
  · rw [hserver] at hn
    exact absurd hn List.not_mem_nil

end Steps

/-! ## 4. Out of order, one message at a time -/

/-- Everything sent has been handled and acknowledged. -/
structure Resting (s : AckLoop) : Prop where
  active : s.conn.state = .active
  getting : s.conn.sender = .getting
  queue : s.conn.queue = []
  inflight : s.conn.inflight = []
  taken : s.taken = s.conn.wire.length
  processed : s.processed = s.client.sent.length
  connected : s.client.connected = true

section Rounds

variable {env opts} {s : AckLoop} {m : MessageFrame} {rest : List MessageFrame}

/-- A message is enqueued, sent and handled. -/
def round : List LoopAct := [.enqueue, .sender, .sender, .client]

/-- The connection after that. -/
def roundConn (env : Env) (c : Connection) (m : MessageFrame) : Connection :=
  { c.put (m.item env) with
    queue := []
    queueBytes := (c.put (m.item env)).queueBytes - (m.item env).sizeBytes
    inflight := [(m.channel, m.sequence)]
    wire := c.wire ++ [.message m] }

theorem runAll_round (hwindow : 1 ≤ env.settings.maxInflightMessages) (h : s.Resting)
    (hrest : s.rest = m :: rest) :
    runAll (step env opts) s round = { s with
      conn := roundConn env s.conn m
      client := s.client.handleMessage opts m
      rest := rest
      taken := s.taken + 1 } := by
  have henq : s.step env opts .enqueue
      = { s with conn := s.conn.put (m.item env), rest := rest } := by
    simp only [step, hrest]
  -- the window is empty, so the item goes straight to its write
  have hget : (s.conn.put (m.item env)).senderStep env = some { s.conn.put (m.item env) with
      queue := []
      queueBytes := (s.conn.put (m.item env)).queueBytes - (m.item env).sizeBytes
      inflight := [(m.channel, m.sequence)]
      sender := .sending (m.item env) } := by
    have hwin : ¬ env.settings.maxInflightMessages ≤ 0 := by omega
    simp [Connection.senderStep, Connection.put, h.getting, h.queue, Connection.waitForWindow,
      Connection.release, Connection.open_, h.active, h.inflight, hwin, MessageFrame.item,
      QueuedMessage.slot]
  have hwrite : ({ s.conn.put (m.item env) with
      queue := []
      queueBytes := (s.conn.put (m.item env)).queueBytes - (m.item env).sizeBytes
      inflight := [(m.channel, m.sequence)]
      sender := .sending (m.item env) } : Connection).senderStep env
        = some (roundConn env s.conn m) := by
    simp [Connection.senderStep, Connection.senderLoop, Connection.open_, Connection.put, h.active,
      roundConn, h.getting, MessageFrame.item]
  have hcl : ({ s with conn := roundConn env s.conn m, rest := rest } : AckLoop).toClient
      = [.message m] := by
    simp only [toClient, roundConn, h.taken]
    exact List.drop_left
  simp only [round, runAll_cons, runAll_nil, henq]
  simp only [step, hget, hwrite, Option.getD_some, hcl]

/-- A message the client has passed leaves its slot taken. -/
theorem round_leaks (hauto : opts.autoAck = true)
    (hwindow : 1 ≤ env.settings.maxInflightMessages) (h : s.Resting) (hrest : s.rest = m :: rest)
    (hle : m.sequence ≤ s.client.acked m.channel) :
    (runAll (step env opts) s round).Drained ∧
      (runAll (step env opts) s round).conn.inflight ≠ [] := by
  have hack := acknowledges_handleMessage hauto m s.client
  rw [runAll_round hwindow h hrest]
  refine ⟨⟨?_, ?_, fun item hitem => ?_⟩, by simp [roundConn]⟩
  · simp [toClient, roundConn, h.taken]
  · simp [toServer, hack.sent, decide_eq_false (Int.not_lt.mpr hle), h.processed]
  · have hget : (roundConn env s.conn m).sender = .getting := h.getting
    rw [hget] at hitem
    nomatch hitem

/-- A message above the position is acknowledged, and the loop rests again. -/
theorem round_rests (hauto : opts.autoAck = true)
    (hwindow : 1 ≤ env.settings.maxInflightMessages) (h : s.Resting) (hrest : s.rest = m :: rest)
    (hlt : s.client.acked m.channel < m.sequence) :
    (runAll (step env opts) s (round ++ [.server])).Resting ∧
      (runAll (step env opts) s (round ++ [.server])).rest = rest ∧
      (runAll (step env opts) s (round ++ [.server])).client = s.client.handleMessage opts m := by
  have hack := acknowledges_handleMessage hauto m s.client
  have hsent : (s.client.handleMessage opts m).sent
      = s.client.sent ++ [.ack m.channel m.sequence] := by
    rw [hack.sent, h.connected, decide_eq_true hlt]
    rfl
  have hsv : (s.client.handleMessage opts m).sent.drop s.processed
      = [.ack m.channel m.sequence] := by
    rw [hsent, h.processed]
    exact List.drop_left
  rw [runAll_append, runAll_round hwindow h hrest]
  simp only [runAll_cons, runAll_nil, step, toServer, hsv, and_true]
  refine ⟨h.active, h.getting, rfl, ?_, ?_, ?_, ?_⟩
  · simp [Connection.onAck, roundConn]
  · simp [Connection.onAck, roundConn, h.taken]
  · simp [hsent, h.processed]
  · rw [hack.connected]
    exact h.connected

/-- If no run leaks, the messages are ascending: message by message, each one has to be above the
position that the ones before it have left. -/
theorem ascending_of_no_leak (hauto : opts.autoAck = true)
    (hwindow : 1 ≤ env.settings.maxInflightMessages) :
    ∀ {s : AckLoop}, s.Resting → (∀ acts, (runAll (step env opts) s acts).Drained →
      (runAll (step env opts) s acts).conn.inflight = []) → Ascending s.client s.rest := by
  intro s
  induction hrest : s.rest generalizing s with
  | nil => exact fun _ _ => ⟨fun m hm => absurd hm List.not_mem_nil, List.Pairwise.nil⟩
  | cons m rest ih =>
    intro h hall
    have hlt : s.client.acked m.channel < m.sequence := by
      by_contra hle
      obtain ⟨hd, hne⟩ := round_leaks hauto hwindow h hrest (Int.not_lt.mp hle)
      exact hne (hall _ hd)
    obtain ⟨hrests, hnext, hclient⟩ := round_rests hauto hwindow h hrest hlt
    have hrec := ih hnext hrests (fun acts => by
      rw [← runAll_append]
      exact hall _)
    rw [hclient] at hrec
    obtain ⟨habove, hpair⟩ := hrec
    have hack := acknowledges_handleMessage hauto m s.client
    constructor
    · intro m' hm'
      rcases List.mem_cons.mp hm' with rfl | hm'
      · exact hlt
      · have := habove m' hm'
        rw [hack.acked] at this
        split at this
        · rename_i hch
          rw [hch]
          exact lt_of_le_of_lt (le_max_left _ _) this
        · exact this
    · refine List.pairwise_cons.mpr ⟨fun m' hm' hch => ?_, hpair⟩
      have := habove m' hm'
      rw [hack.acked, if_pos hch.symm] at this
      exact lt_of_le_of_lt (le_max_right _ _) this

end Rounds

/-! ## 5. The result -/

/-- **The window drains in every interleaving exactly if the messages of each channel ascend above
the client's position.**  For every window of at least one slot, every client with autoAck, and
every list of messages, in any order and with any duplicates. -/
theorem window_drains_iff (env : Env) (hwindow : 1 ≤ env.settings.maxInflightMessages)
    (opts : ClientOptions) (hauto : opts.autoAck = true) (connectionId : ConnId)
    (sessionId tenantId : String) (client : RelayClient) (hconn : client.connected = true)
    (messages : List MessageFrame) :
    (∀ acts, (runAll (step env opts) (start connectionId sessionId tenantId client messages)
        acts).Drained →
      (runAll (step env opts) (start connectionId sessionId tenantId client messages)
        acts).conn.inflight = []) ↔ Ascending client messages := by
  constructor
  · intro hall
    exact ascending_of_no_leak hauto hwindow
      (s := start connectionId sessionId tenantId client messages)
      ⟨rfl, rfl, rfl, rfl, rfl, rfl, hconn⟩ hall
  · intro hasc acts hd
    have hstart : Flowing env (start connectionId sessionId tenantId client messages) :=
      ⟨rfl, fun item hitem => absurd hitem List.not_mem_nil, Nat.zero_le _, Nat.zero_le _, hconn,
        hasc, fun slot hslot => absurd hslot List.not_mem_nil⟩
    exact (@runAll_invariant' _ _ (step env opts) (Flowing env)
      (fun s a hs => flowing_step hauto hs a) acts _ hstart).drained hd

/-- A message of the channel `c`. -/
def numbered (id : String) (n : Int) : MessageFrame := ⟨id, "c", n, 0, .null⟩

/-- One message after the other, each acknowledged before the next is sent. -/
def oneByOne : List LoopAct :=
  [.enqueue, .sender, .sender, .client, .server, .enqueue, .sender, .sender, .client]

/-- **Two orders that leak a slot**: 2 before 1, from publishers that overtook each other, and 1
twice, from a replay and the live fanout.  Everything is handled, and with a window of one slot
nothing will ever be sent again. -/
theorem passed_message_keeps_slot :
    let overtaken := runAll (step (.plain { maxInflightMessages := 1 }) {})
      (start "x" "s" "t" { connected := true } [numbered "b" 2, numbered "a" 1]) oneByOne
    let twice := runAll (step (.plain { maxInflightMessages := 1 }) {})
      (start "x" "s" "t" { connected := true } [numbered "a" 1, numbered "a" 1]) oneByOne
    (overtaken.Drained ∧ overtaken.conn.inflight = [("c", 1)]) ∧
      (twice.Drained ∧ twice.conn.inflight = [("c", 1)]) := by
  refine ⟨⟨⟨rfl, rfl, ?_⟩, rfl⟩, ⟨⟨rfl, rfl, ?_⟩, rfl⟩⟩
  · intro item hitem
    nomatch hitem
  · intro item hitem
    nomatch hitem

/-- In order the window drains: both messages are sent before the client handles the first. -/
theorem ascending_messages_drain :
    (runAll (step (.plain {}) {}) (start "x" "s" "t" { connected := true }
      [numbered "a" 1, numbered "b" 2]) [.enqueue, .enqueue, .sender, .sender, .sender, .sender,
        .client, .client, .server, .server]).conn.inflight = [] := by
  have hasc : Ascending { connected := true } [numbered "a" 1, numbered "b" 2] := by
    constructor
    · intro m hm
      rcases List.mem_cons.mp hm with rfl | hm
      · decide
      · rw [List.mem_singleton.mp hm]
        decide
    · simp [numbered]
  refine (window_drains_iff (.plain {}) (by decide) {} rfl "x" "s" "t" { connected := true } rfl
    [numbered "a" 1, numbered "b" 2]).mpr hasc _ ⟨rfl, rfl, ?_⟩
  intro item hitem
  nomatch hitem

end AckLoop

end Relay
