/-
# Acknowledgement and processing

`handleFrame` starts `onMessage` without awaiting it, so the handler runs of several messages are in
progress at once and settle in any order.  Each run ends with `ack` of its own sequence, and a
duplicate is acknowledged at once, whatever has become of the first copy.  An ACK is cumulative: it
also stands for every smaller sequence of the channel.

So an ACK is justified -- every message it stands for has been processed -- if the runs of a channel
end in the order of the sequences: when a run ends, or a duplicate arrives, no other run of the
channel with the same or a smaller sequence is unfinished or has failed.
-/
import Mathlib
import Relay.Client
import Relay.Lib.Stages

namespace Relay

open RelayClient

/-! ## 1. Overlapping runs of `onMessage` -/

/-- A client with the messages it has received and its invocations of `onMessage`. -/
structure Inbox where
  client : RelayClient
  received : List MessageFrame := []
  runs : List (MessageFrame × RunState) := []

/-- A MESSAGE frame comes in, or the handler a run awaits settles. -/
inductive InboxAct
  | receive (m : MessageFrame)
  | resolve (i : Nat)
  | reject (i : Nat)

namespace Inbox

variable (opts : ClientOptions)

/-- One step.  A handler that rejects ends its run with an exception nobody handles. -/
def step (s : Inbox) : InboxAct → Inbox
  | .receive m =>
    match s.client.arrive opts m with
    | (c, none) => { s with client := c, received := s.received ++ [m] }
    | (c, some handlers) =>
      { client := (c.proceed opts m handlers).1
        received := s.received ++ [m]
        runs := s.runs ++ [(m, (c.proceed opts m handlers).2)] }
  | .resolve i =>
    match s.runs[i]? with
    | some (m, .pending (_ :: rest)) =>
      { s with
        client := (s.client.proceed opts m rest).1
        runs := s.runs.set i (m, (s.client.proceed opts m rest).2) }
    | _ => s
  | .reject i =>
    match s.runs[i]? with
    | some (m, .pending _) => { s with runs := s.runs.set i (m, .rejected) }
    | _ => s

/-- All handlers of the message, or of another copy of it, have completed. -/
def Processed (s : Inbox) (m : MessageFrame) : Prop :=
  ∃ r ∈ s.runs, r.1.messageId = m.messageId ∧ r.2 = .completed

instance (s : Inbox) (m : MessageFrame) : Decidable (s.Processed m) :=
  inferInstanceAs (Decidable (∃ r ∈ s.runs, _))

/-- What a step sends. -/
def sends (s : Inbox) (a : InboxAct) : List ClientFrame :=
  (s.step opts a).client.sent.drop s.client.sent.length

/-- Every ACK that a step sends stands for processed messages only. -/
def AcksProcessed (s : Inbox) (a : InboxAct) : Prop :=
  ∀ channel sequence, .ack channel sequence ∈ s.sends opts a →
    ∀ m ∈ (s.step opts a).received, m.channel = channel → m.sequence ≤ sequence →
      (s.step opts a).Processed m

/-- None of the runs is an unfinished or failed one of the channel of `m`, at or below `m`. -/
def NoneBelow (runs : List (MessageFrame × RunState)) (m : MessageFrame) : Prop :=
  ∀ r ∈ runs, r.2 ≠ .completed → r.1.channel = m.channel → m.sequence < r.1.sequence

instance (runs : List (MessageFrame × RunState)) (m : MessageFrame) : Decidable (NoneBelow runs m) :=
  inferInstanceAs (Decidable (∀ r ∈ runs, _))

/-- If a run ends with this step, or a duplicate arrives, no other run of the channel is open at or
below it. -/
def InOrder (s : Inbox) : InboxAct → Prop
  | .receive m => m.messageId ∈ s.client.seenIds ∨ s.client.handlersOf m.channel = [] →
      NoneBelow s.runs m
  | .resolve i =>
    match s.runs[i]? with
    | some (m, .pending [_]) => NoneBelow (s.runs.eraseIdx i) m
    | _ => True
  | .reject _ => True

instance (s : Inbox) (a : InboxAct) : Decidable (InOrder s a) := by
  unfold InOrder
  split
  · infer_instance
  · split <;> infer_instance
  · infer_instance

/-! ## 2. Every received message has a run -/

/-- The messages with a run. -/
def started (s : Inbox) : List MessageFrame := s.runs.map Prod.fst

/-- An id stands for one place in one channel. -/
def Placed (place : String → Channel × Int) (m : MessageFrame) : Prop :=
  (m.channel, m.sequence) = place m.messageId

/-- The messages are where their ids say, each received one has a run, and the ids the client
remembers are theirs. -/
structure Accounted (place : String → Channel × Int) (s : Inbox) : Prop where
  placed : ∀ m ∈ s.received ++ s.started, Placed place m
  run : ∀ m ∈ s.received, ∃ m' ∈ s.started, m'.messageId = m.messageId
  seen : ∀ id ∈ s.client.seenIds, ∃ m ∈ s.started, m.messageId = id

section Steps

variable {opts} {place : String → Channel × Int} {s : Inbox} {m : MessageFrame} {i : Nat}

theorem proceed_seenIds (c : RelayClient) (handlers : List String) :
    (c.proceed opts m handlers).1.seenIds = c.seenIds := by
  cases handlers with
  | nil => exact finish_seenIds opts m c
  | cons handler rest => rfl

/-- A duplicate. -/
theorem step_duplicate (h : m.messageId ∈ s.client.seenIds) : s.step opts (.receive m)
    = { s with
        client := (s.client.emit (.duplicate m.channel m.messageId)).finish opts m
        received := s.received ++ [m] } := by
  simp only [step, arrive, if_pos h]

/-- The client that runs the handlers of a new message. -/
def noted (opts : ClientOptions) (s : Inbox) (m : MessageFrame) : RelayClient :=
  (s.client.rememberId opts m.messageId).noteSequence m

/-- A new message. -/
theorem step_new (h : m.messageId ∉ s.client.seenIds) : s.step opts (.receive m)
    = { client := ((s.noted opts m).proceed opts m ((s.noted opts m).handlersOf m.channel)).1
        received := s.received ++ [m]
        runs := s.runs ++
          [(m, ((s.noted opts m).proceed opts m ((s.noted opts m).handlersOf m.channel)).2)] } := by
  simp only [step, arrive, if_neg h]
  rfl

theorem noted_handlersOf (channel : Channel) :
    (s.noted opts m).handlersOf channel = s.client.handlersOf channel := by
  unfold noted noteSequence
  split
  · rfl
  · simp only
    split <;> split <;> rfl

theorem noted_sent : (s.noted opts m).sent = s.client.sent := (noteSequence_frame m _).1

/-- What resolving the last handler of a run does. -/
theorem step_resolve_last {handler : String} (hi : s.runs[i]? = some (m, .pending [handler])) :
    s.step opts (.resolve i) = { s with
      client := s.client.finish opts m
      runs := s.runs.set i (m, .completed) } := by
  simp only [step, hi, proceed]

theorem step_resolve_next {handler next : String} {rest : List String}
    (hi : s.runs[i]? = some (m, .pending (handler :: next :: rest))) :
    s.step opts (.resolve i) = { s with
      client := s.client.emit (.message next m)
      runs := s.runs.set i (m, .pending (next :: rest)) } := by
  simp only [step, hi, proceed]

theorem step_reject {handlers : List String} (hi : s.runs[i]? = some (m, .pending handlers)) :
    s.step opts (.reject i) = { s with runs := s.runs.set i (m, .rejected) } := by
  simp only [step, hi]

/-- **What a step can do**: nothing, take a duplicate, start a run, or move one run on. -/
theorem step_cases (opts : ClientOptions) (s : Inbox) (a : InboxAct) :
    (s.step opts a = s) ∨
    (∃ m, a = .receive m ∧ m.messageId ∈ s.client.seenIds) ∨
    (∃ m, a = .receive m ∧ m.messageId ∉ s.client.seenIds) ∨
    (∃ i m handler, a = .resolve i ∧ s.runs[i]? = some (m, .pending [handler])) ∨
    (∃ i r st c, s.runs[i]? = some r ∧ s.step opts a = { s with
      client := c, runs := s.runs.set i (r.1, st) } ∧ c.sent = s.client.sent ∧
      c.seenIds = s.client.seenIds) := by
  cases a with
  | receive m =>
    by_cases h : m.messageId ∈ s.client.seenIds
    · exact Or.inr (Or.inl ⟨m, rfl, h⟩)
    · exact Or.inr (Or.inr (Or.inl ⟨m, rfl, h⟩))
  | resolve i =>
    match hi : s.runs[i]? with
    | none => exact Or.inl (by simp only [step, hi])
    | some (m, .completed) => exact Or.inl (by simp only [step, hi])
    | some (m, .rejected) => exact Or.inl (by simp only [step, hi])
    | some (m, .pending []) => exact Or.inl (by simp only [step, hi])
    | some (m, .pending [handler]) =>
      exact Or.inr (Or.inr (Or.inr (Or.inl ⟨i, m, handler, rfl, hi⟩)))
    | some (m, .pending (handler :: next :: rest)) =>
      exact Or.inr (Or.inr (Or.inr (Or.inr ⟨i, _, _, _, hi, step_resolve_next hi, rfl, rfl⟩)))
  | reject i =>
    match hi : s.runs[i]? with
    | none => exact Or.inl (by simp only [step, hi])
    | some (m, .completed) => exact Or.inl (by simp only [step, hi])
    | some (m, .rejected) => exact Or.inl (by simp only [step, hi])
    | some (m, .pending handlers) =>
      exact Or.inr (Or.inr (Or.inr (Or.inr ⟨i, _, _, _, hi, step_reject hi, rfl, rfl⟩)))

/-- A run keeps its message. -/
theorem started_set {r : MessageFrame × RunState} (st : RunState) (hi : s.runs[i]? = some r) :
    (s.runs.set i (r.1, st)).map Prod.fst = s.started := by
  obtain ⟨before, after, hl, hset, -⟩ := Stages.exists_around hi
  rw [hset, started, hl, List.map_append, List.map_append, List.map_cons, List.map_cons]

/-- **A step keeps the account**, if the message it takes is where its id says. -/
theorem accounted_step (h : Accounted place s) {a : InboxAct}
    (hm : ∀ m, a = .receive m → Placed place m) : Accounted place (s.step opts a) := by
  -- a message taken in: the runs are the old ones, or there is one more
  have hreceive : ∀ {m : MessageFrame} {s' : Inbox}, Placed place m →
      s'.received = s.received ++ [m] → (∃ more, s'.started = s.started ++ more ∧ ∀ m' ∈ more,
        m' = m) → (∃ m' ∈ s'.started, m'.messageId = m.messageId) →
      (∀ id ∈ s'.client.seenIds, id = m.messageId ∨ id ∈ s.client.seenIds) →
      Accounted place s' := by
    rintro m s' hm hrec ⟨more, hmore, hall⟩ hrun hids
    have hkept : ∀ {id : String}, (∃ m' ∈ s.started, m'.messageId = id) →
        ∃ m' ∈ s'.started, m'.messageId = id := by
      rintro id ⟨m', hm', hid⟩
      exact ⟨m', hmore ▸ List.mem_append_left _ hm', hid⟩
    refine ⟨fun m' hm' => ?_, fun m' hm' => ?_, fun id hid => ?_⟩
    · rw [hrec, hmore] at hm'
      simp only [List.mem_append, List.mem_singleton] at hm'
      rcases hm' with (hm' | rfl) | hm' | hm'
      · exact h.placed m' (List.mem_append_left _ hm')
      · exact hm
      · exact h.placed m' (List.mem_append_right _ hm')
      · exact hall m' hm' ▸ hm
    · rw [hrec] at hm'
      rcases List.mem_append.mp hm' with hm' | hm'
      · exact hkept (h.run m' hm')
      · rw [List.mem_singleton.mp hm']
        exact hrun
    · rcases hids id hid with rfl | hold
      · exact hrun
      · exact hkept (h.seen id hold)
  rcases step_cases opts s a with hsame | ⟨m, rfl, hseen⟩ | ⟨m, rfl, hnew⟩ |
    ⟨i, m, handler, rfl, hi⟩ | ⟨i, r, st, c, hi, hstep, -, hids⟩
  · rw [hsame]
    exact h
  · -- the first copy has a run
    rw [step_duplicate hseen]
    refine hreceive (hm m rfl) rfl ⟨[], (List.append_nil _).symm, ?_⟩ (h.seen _ hseen) ?_
    · exact fun m' hm' => absurd hm' List.not_mem_nil
    · intro id hid
      have hsame : ((s.client.emit (.duplicate m.channel m.messageId)).finish opts m).seenIds
          = s.client.seenIds := finish_seenIds opts m _
      exact Or.inr (hsame ▸ hid)
  · rw [step_new hnew]
    refine hreceive (hm m rfl) rfl ⟨[m], ?_, fun m' hm' => List.mem_singleton.mp hm'⟩ ⟨m, ?_, rfl⟩ ?_
    · exact List.map_append
    · rw [started, List.map_append]
      exact List.mem_append_right _ (List.mem_singleton_self m)
    · intro id hid
      rw [proceed_seenIds, noted, (noteSequence_frame m _).2.2.2] at hid
      exact mem_seenIds_rememberId opts hid
  · rw [step_resolve_last hi]
    have hstarted := started_set .completed hi
    refine ⟨?_, ?_, ?_⟩
    · rw [started, hstarted]
      exact h.placed
    · rw [started, hstarted]
      exact h.run
    · rw [started, hstarted, finish_seenIds]
      exact h.seen
  · rw [hstep]
    have hstarted := started_set st hi
    refine ⟨?_, ?_, ?_⟩
    · rw [started, hstarted]
      exact h.placed
    · rw [started, hstarted]
      exact h.run
    · rw [started, hstarted, hids]
      exact h.seen

/-! ## 3. Acknowledgements -/

/-- The end of a run sends its own ACK at most. -/
theorem mem_drop_finish {c : RelayClient} {frames : List ClientFrame} (hc : c.sent = frames)
    {channel : Channel} {sequence : Int}
    (h : .ack channel sequence ∈ (c.finish opts m).sent.drop frames.length) :
    channel = m.channel ∧ sequence = m.sequence := by
  obtain ⟨new, hnew, hall⟩ := finish_sent opts m c
  rw [hnew, hc, List.drop_left] at h
  exact ClientFrame.ack.inj (hall _ h)

/-- A message whose runs are all completed, or above, is processed. -/
theorem processed_of_noneBelow (h : Accounted place s) (hno : NoneBelow s.runs m)
    {m' : MessageFrame} (hm' : m' ∈ s.received) (hch : m'.channel = m.channel)
    (hle : m'.sequence ≤ m.sequence) : s.Processed m' := by
  obtain ⟨m₁, h₁, hid⟩ := h.run m' hm'
  obtain ⟨r, hr, rfl⟩ := List.mem_map.mp h₁
  -- the run is of the same place
  have hplace : (r.1.channel, r.1.sequence) = (m'.channel, m'.sequence) := by
    rw [h.placed r.1 (List.mem_append_right _ h₁), h.placed m' (List.mem_append_left _ hm'), hid]
  obtain ⟨hchannel, hsequence⟩ := Prod.mk.inj hplace
  by_cases hc : r.2 = .completed
  · exact ⟨r, hr, hid, hc⟩
  · have habove := hno r hr hc (hchannel.trans hch)
    omega

/-- **A step that keeps the order sends justified ACKs only.** -/
theorem acksProcessed_of_inOrder (h : Accounted place s) {a : InboxAct}
    (hm : ∀ m, a = .receive m → Placed place m) (hok : s.InOrder a) :
    s.AcksProcessed opts a := by
  have hnext : Accounted place (s.step opts a) := accounted_step h hm
  intro channel sequence hack m₁ h₁ hch hle
  -- whatever was acknowledged is a message with no open run at or below it
  suffices hno : ∃ m : MessageFrame, channel = m.channel ∧ sequence = m.sequence ∧
      NoneBelow (s.step opts a).runs m by
    obtain ⟨m, rfl, rfl, hno⟩ := hno
    exact processed_of_noneBelow hnext hno h₁ hch hle
  unfold sends at hack
  rcases step_cases opts s a with hsame | ⟨m, rfl, hseen⟩ | ⟨m, rfl, hnew⟩ |
    ⟨i, m, handler, rfl, hi⟩ | ⟨i, r, st, c, hi, hstep, hsent, -⟩
  · rw [hsame, List.drop_length] at hack
    exact absurd hack List.not_mem_nil
  · -- a duplicate is acknowledged at once
    rw [step_duplicate hseen] at hack ⊢
    obtain ⟨rfl, rfl⟩ := mem_drop_finish (emit_sent _ s.client) hack
    exact ⟨m, rfl, rfl, hok (Or.inl hseen)⟩
  · rw [step_new hnew, noted_handlersOf] at hack ⊢
    cases hh : s.client.handlersOf m.channel with
    | nil =>
      rw [hh] at hack
      obtain ⟨rfl, rfl⟩ := mem_drop_finish noted_sent hack
      refine ⟨m, rfl, rfl, fun r hr hne => ?_⟩
      rcases List.mem_append.mp hr with hr | hr
      · exact hok (Or.inr hh) r hr hne
      · exact absurd (by rw [List.mem_singleton.mp hr]; rfl) hne
    | cons handler rest =>
      rw [hh] at hack
      simp only [proceed, emit_sent, noted_sent, List.drop_length] at hack
      exact absurd hack List.not_mem_nil
  · rw [step_resolve_last hi] at hack ⊢
    obtain ⟨rfl, rfl⟩ := mem_drop_finish rfl hack
    obtain ⟨before, after, -, hset, herase⟩ := Stages.exists_around hi
    simp only [InOrder, hi, herase] at hok
    refine ⟨m, rfl, rfl, fun r hr hne => ?_⟩
    simp only [hset] at hr
    rcases List.mem_append.mp hr with hr | hr
    · exact hok r (List.mem_append_left _ hr) hne
    · rcases List.mem_cons.mp hr with rfl | hr
      · exact absurd rfl hne
      · exact hok r (List.mem_append_right _ hr) hne
  · rw [hstep] at hack
    simp only [hsent, List.drop_length] at hack
    exact absurd hack List.not_mem_nil

end Steps

/-- A client that has received nothing yet. -/
def start (client : RelayClient) : Inbox := { client := client }

/-- **The client acknowledges only what it has processed, as long as handler runs end in order.**
For every client, every sequence of MESSAGE frames in which an id belongs to one channel and
sequence, every set of handlers and every order in which they settle. -/
theorem acks_follow_processing (opts : ClientOptions) (client : RelayClient)
    (hfresh : client.seenIds = OSet.empty) (place : String → Channel × Int) (acts : List InboxAct)
    (hids : ∀ m, .receive m ∈ acts → (m.channel, m.sequence) = place m.messageId)
    (hok : Along (step opts) InOrder (start client) acts) :
    Along (step opts) (AcksProcessed opts) (start client) acts := by
  have hrun : ∀ (acts : List InboxAct) (s : Inbox), Accounted place s →
      (∀ m, .receive m ∈ acts → Placed place m) → Along (step opts) InOrder s acts →
      Along (step opts) (AcksProcessed opts) s acts := by
    intro acts
    induction acts with
    | nil => exact fun _ _ _ _ => trivial
    | cons a acts ih =>
      intro s hs hids hok
      have hm : ∀ m, a = .receive m → Placed place m :=
        fun m ha => hids m (ha ▸ List.mem_cons_self)
      exact ⟨acksProcessed_of_inOrder hs hm hok.1,
        ih _ (accounted_step hs hm) (fun m hmem => hids m (List.mem_cons_of_mem _ hmem)) hok.2⟩
  refine hrun acts _ ⟨?_, ?_, ?_⟩ hids hok
  · exact fun m hm => absurd hm List.not_mem_nil
  · exact fun m hm => absurd hm List.not_mem_nil
  · intro id hid
    rw [start, hfresh] at hid
    exact absurd hid (OSet.not_mem_empty id)

/-- A connected client with one handler on the channel `c`. -/
def oneHandler : RelayClient where
  connected := true
  handlers := Dict.empty.set "c" (OSet.empty.add "h")

/-- Two messages of the channel. -/
def first : MessageFrame := ⟨"m-1", "c", 1, 0, .null⟩
def second : MessageFrame := ⟨"m-2", "c", 2, 0, .null⟩

/-- **Three ways to acknowledge an unprocessed message**: the handler of the second message completes
before that of the first; the handler of the first rejects; the first message arrives again while it
is being handled. -/
theorem unprocessed_message_acknowledged :
    ¬ Along (step {}) (AcksProcessed {}) (start oneHandler)
        [.receive first, .receive second, .resolve 1] ∧
      ¬ Along (step {}) (AcksProcessed {}) (start oneHandler)
        [.receive first, .receive second, .reject 0, .resolve 1] ∧
      ¬ Along (step {}) (AcksProcessed {}) (start oneHandler) [.receive first, .receive first] := by
  refine ⟨fun h => ?_, fun h => ?_, fun h => ?_⟩
  · have hbad := h.2.2.1 "c" 2 List.mem_cons_self first List.mem_cons_self rfl (by decide)
    exact absurd hbad (by decide)
  · have hbad := h.2.2.2.1 "c" 2 List.mem_cons_self first List.mem_cons_self rfl (by decide)
    exact absurd hbad (by decide)
  · have hbad := h.2.1 "c" 1 List.mem_cons_self first List.mem_cons_self rfl (by decide)
    exact absurd hbad (by decide)

/-- Two overlapping runs that end in order. -/
theorem overlapping_runs_in_order :
    Along (step {}) (AcksProcessed {}) (start oneHandler)
      [.receive first, .receive second, .resolve 0, .resolve 1] := by
  refine acks_follow_processing {} oneHandler rfl (fun id => ("c", if id = "m-1" then 1 else 2))
    _ (fun m hm => ?_) (by decide)
  simp only [List.mem_cons, InboxAct.receive.injEq, List.not_mem_nil, or_false, reduceCtorEq] at hm
  rcases hm with rfl | rfl
  · rfl
  · rfl

end Inbox

end Relay
