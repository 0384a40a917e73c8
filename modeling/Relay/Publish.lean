/-
# Publishing and replaying a channel

`publish_message` (`apps/gateway/fanout/publisher.py`), `allocate_sequence` and
`append_to_channel_buffer` (`packages/redis/client.py`) and `replay_channel`
(`apps/gateway/recovery/replay.py`): the functions on a channel that touch Redis and nothing else.

A publish is four commands -- INCR, XADD, XTRIM, PUBLISH -- and other publishers may run between
any two of them.  `Stage` names the point a call has reached, `Stage.advance` is one command of
it, and `Publishers.toPool_step` says that this is the same as one segment of the program
`publishMessage`.  The rest of the development argues about stages.

The one fact about concurrent publishers that everything later rests on is in section 3: INCR
hands every call its own number, so no two entries of a stream carry the same sequence
(`appended_nodup`).
-/
import Mathlib
import Relay.Redis
import Relay.Lib.Run

namespace Relay

open Redis

/-! ## 1. The programs -/

/-- `allocate_sequence`. -/
def allocateSequence (channel : Channel) : Prog Redis Exn Int := command (incr channel)

/-- `append_to_channel_buffer`. -/
def appendToChannelBuffer (env : Env) (channel : Channel) (messageId : String) (sequence : Int)
    (payload : Json) : Prog Redis Exn Unit := do
  command (xadd channel env.settings.channelBufferMaxMessages
    (fun r => ⟨messageId, sequence, payload, r.now⟩))
  command (xtrim channel)

/-- `PublishResult`. -/
structure PublishResult where
  messageId : String
  sequence : Int
  deriving DecidableEq, Repr

/-- The PUBLISH of `publish_message`: the envelope is stamped with the second it is built in. -/
def announce (channel : Channel) (messageId : String) (sequence : Int) (payload : Json) :
    Prog Redis Exn Unit :=
  command (publish channel (fun r => ⟨messageId, channel, sequence, r.now / 1000000, payload⟩))

/-- `publish_message`; the fresh UUID is an argument. -/
def publishMessage (env : Env) (channel : Channel) (messageId : String) (payload : Json) :
    Prog Redis Exn PublishResult := do
  let sequence ← allocateSequence channel
  appendToChannelBuffer env channel messageId sequence payload
  announce channel messageId sequence payload
  return ⟨messageId, sequence⟩

/-- `ReplayResult`. -/
structure ReplayResult where
  messages : List StreamEntry
  gap : Bool

/-- What `replay_channel` computes from the entries XRANGE returned: sort by sequence, compare
the position with the oldest one, keep what lies above the position. -/
def replayOf (entries : List StreamEntry) (lastAck : Int) : ReplayResult :=
  let parsed := entries.insertionSort (fun a b => a.sequence ≤ b.sequence)
  match parsed with
  | [] => ⟨[], false⟩
  | oldest :: _ =>
    ⟨parsed.filter (fun m => decide (lastAck < m.sequence)),
      decide (lastAck + 1 < oldest.sequence) && decide (lastAck ≠ 0)⟩

/-- `replay_channel`. -/
def replayChannel (channel : Channel) (lastAck : Int) : Prog Redis Exn ReplayResult := do
  let entries ← command (xrange channel)
  return replayOf entries lastAck

/-! ## 2. The stages of a publish -/

/-- The arguments of a `publish_message` call. -/
structure PublishCall where
  channel : Channel
  messageId : String
  payload : Json

/-- How far a call has come; from INCR on it holds its sequence number. -/
inductive Stage
  | start
  | numbered (n : Int)
  | stored (n : Int)
  | trimmed (n : Int)
  | done (n : Int)
  | failed
  deriving DecidableEq, Repr

namespace Stage

/-- The rest of the program from a stage on. -/
def prog (env : Env) (call : PublishCall) : Stage → Prog Redis Exn PublishResult
  | start => publishMessage env call.channel call.messageId call.payload
  | numbered n => do
    appendToChannelBuffer env call.channel call.messageId n call.payload
    announce call.channel call.messageId n call.payload
    return ⟨call.messageId, n⟩
  | stored n => do
    command (xtrim call.channel)
    announce call.channel call.messageId n call.payload
    return ⟨call.messageId, n⟩
  | trimmed n => do
    announce call.channel call.messageId n call.payload
    return ⟨call.messageId, n⟩
  | done n => .ret ⟨call.messageId, n⟩
  | failed => .raise .redis

/-- The entry a call appends. -/
def entry (call : PublishCall) (n : Int) (r : Redis) : StreamEntry :=
  ⟨call.messageId, n, call.payload, r.now⟩

/-- The envelope a call publishes. -/
def envelope (call : PublishCall) (n : Int) (r : Redis) : MessageFrame :=
  ⟨call.messageId, call.channel, n, r.now / 1000000, call.payload⟩

/-- The next command of a call, when it does not fail. -/
def fire (env : Env) (call : PublishCall) (r : Redis) : Stage → Redis × Stage
  | start => ((incr call.channel r).2, numbered (r.sequence call.channel + 1))
  | numbered n =>
    ((xadd call.channel env.settings.channelBufferMaxMessages (entry call n) r).2, stored n)
  | stored n => ((xtrim call.channel r).2, trimmed n)
  | trimmed n => ((publish call.channel (envelope call n) r).2, done n)
  | done n => (r, done n)
  | failed => (r, failed)

/-- The call has a command left. -/
def Running : Stage → Prop
  | done _ => False
  | failed => False
  | _ => True

instance : ∀ st : Stage, Decidable st.Running
  | start => isTrue trivial
  | numbered _ => isTrue trivial
  | stored _ => isTrue trivial
  | trimmed _ => isTrue trivial
  | done _ => isFalse id
  | failed => isFalse id

/-- One scheduling of a call: its next command, which may fail. -/
def advance (env : Env) (call : PublishCall) (r : Redis) (st : Stage) : Redis × Stage :=
  if st.Running then
    match r.faults with
    | true :: rest => ({ r with faults := rest }, failed)
    | false :: rest => fire env call { r with faults := rest } st
    | [] => fire env call r st
  else (r, st)

/-- A stage that has a command left is a segment of the program, and the segment does what
`advance` says. -/
theorem prog_running (env : Env) (call : PublishCall) {st : Stage} (h : st.Running) :
    ∃ f k, st.prog env call = .seg f k ∧ ∀ r, f r = (st.advance env call r).1 ∧
      k r = (st.advance env call r).2.prog env call := by
  -- the outcome of a command depends on the next fault, that of XTRIM also on the next trim
  cases st with
  | start =>
    refine ⟨_, _, rfl, ?_⟩
    rintro ⟨now, _ | ⟨_ | _, fs⟩, ts⟩ <;> exact ⟨rfl, rfl⟩
  | numbered n =>
    refine ⟨_, _, rfl, ?_⟩
    rintro ⟨now, _ | ⟨_ | _, fs⟩, ts⟩ <;> exact ⟨rfl, rfl⟩
  | stored n =>
    refine ⟨_, _, rfl, ?_⟩
    rintro ⟨now, _ | ⟨_ | _, fs⟩, _ | ⟨t, ts⟩⟩ <;> exact ⟨rfl, rfl⟩
  | trimmed n =>
    refine ⟨_, _, rfl, ?_⟩
    rintro ⟨now, _ | ⟨_ | _, fs⟩, ts⟩ <;> exact ⟨rfl, rfl⟩
  | done n => exact absurd h id
  | failed => exact absurd h id

end Stage

/-- Any number of calls in progress over one Redis. -/
structure Publishers where
  redis : Redis
  calls : List (PublishCall × Stage)

namespace Publishers

/-- The calls as programs. -/
def toPool (env : Env) (p : Publishers) : Pool Redis Exn PublishResult :=
  ⟨p.redis, p.calls.map (fun c => c.2.prog env c.1)⟩

/-- Schedule call `i` for one command. -/
def step (env : Env) (p : Publishers) (i : Nat) : Publishers :=
  match p.calls[i]? with
  | some (call, st) =>
    ⟨(st.advance env call p.redis).1, p.calls.set i (call, (st.advance env call p.redis).2)⟩
  | none => p

/-- Calls that have not begun, on a Redis that is up and holds nothing for their channels;
`trims` says what the age trimming of the coming XTRIMs will find. -/
def start (trims : List Nat) (calls : List PublishCall) : Publishers :=
  ⟨{ ageTrims := trims }, calls.map (fun c => (c, .start))⟩

/-- The programs `publish_message(c, id, payload)` for all the calls. -/
def pool (env : Env) (trims : List Nat) (calls : List PublishCall) :
    Pool Redis Exn PublishResult :=
  ⟨{ ageTrims := trims },
    calls.map (fun c => publishMessage env c.channel c.messageId c.payload)⟩

theorem toPool_start (env : Env) (trims : List Nat) (calls : List PublishCall) :
    (start trims calls).toPool env = pool env trims calls := by
  simp only [toPool, start, pool, List.map_map]
  rfl

theorem set_same {α : Type} {l : List α} {i : Nat} {a : α} (h : l[i]? = some a) :
    l.set i a = l := by
  obtain ⟨hlt, rfl⟩ := List.getElem?_eq_some_iff.mp h
  exact List.set_getElem_self hlt

/-- **Stages are the program.**  Scheduling a call by stages and scheduling its program are the
same. -/
theorem toPool_step (env : Env) (p : Publishers) (i : Nat) :
    (p.step env i).toPool env = (p.toPool env).step i := by
  unfold step Pool.step
  cases hi : p.calls[i]? with
  | none => simp [toPool, hi]
  | some c =>
    obtain ⟨call, st⟩ := c
    have hp : (p.toPool env).tasks[i]? = some (st.prog env call) := by simp [toPool, hi]
    rw [hp]
    by_cases hr : st.Running
    · obtain ⟨f, k, hseg, hfk⟩ := st.prog_running env call hr
      rw [hseg]
      simp only [toPool, List.map_set]
      rw [← (hfk p.redis).1, ← (hfk p.redis).2]
    · have hadv : st.advance env call p.redis = (p.redis, st) := by
        rw [Stage.advance, if_neg hr]
      simp only [hadv, set_same hi]
      cases st with
      | done n => rfl
      | failed => rfl
      | start => exact absurd trivial hr
      | numbered n => exact absurd trivial hr
      | stored n => exact absurd trivial hr
      | trimmed n => exact absurd trivial hr

theorem toPool_exec (env : Env) : ∀ (sched : List Nat) (p : Publishers),
    (runAll (step env) p sched).toPool env = (p.toPool env).exec sched
  | [], _ => rfl
  | i :: sched, p => by
    rw [runAll_cons, Pool.exec_cons, ← toPool_step]
    exact toPool_exec env sched (p.step env i)

/-- The store after a schedule of the programs is the store after the same schedule of the
stages. -/
theorem pool_state (env : Env) (trims : List Nat) (calls : List PublishCall) (sched : List Nat) :
    ((pool env trims calls).exec sched).state
      = (runAll (step env) (start trims calls) sched).redis := by
  rw [← toPool_start, ← toPool_exec]
  rfl

/-- What one scheduling step does: nothing, a command that failed, or the next command of one
call. -/
theorem step_cases (env : Env) (p : Publishers) (i : Nat) :
    p.step env i = p ∨
    ∃ before call st after, p.calls = before ++ (call, st) :: after ∧
      p.calls[i]? = some (call, st) ∧ st.Running ∧
      ((∃ rest, p.redis.faults = true :: rest ∧
          p.step env i = ⟨{ p.redis with faults := rest }, before ++ (call, .failed) :: after⟩) ∨
        ∃ fs, (p.redis.faults = false :: fs ∨ p.redis.faults = [] ∧ fs = []) ∧
          p.step env i =
            ⟨(Stage.fire env call { p.redis with faults := fs } st).1,
              before ++ (call, (Stage.fire env call { p.redis with faults := fs } st).2) ::
                after⟩) := by
  unfold step
  cases hi : p.calls[i]? with
  | none => exact Or.inl rfl
  | some c =>
    obtain ⟨call, st⟩ := c
    obtain ⟨hlt, hget⟩ := List.getElem?_eq_some_iff.mp hi
    by_cases hr : st.Running
    · refine Or.inr ?_
      obtain ⟨l₁, l₂, hl, -, hset⟩ :=
        @List.exists_of_set _ i (call, (st.advance env call p.redis).2) _ hlt
      rw [hget] at hl
      refine ⟨l₁, call, st, l₂, hl, rfl, hr, ?_⟩
      simp only [hset]
      unfold Stage.advance
      rw [if_pos hr]
      split
      · rename_i rest hf
        exact Or.inl ⟨rest, hf, rfl⟩
      · rename_i rest hf
        exact Or.inr ⟨rest, Or.inl hf, rfl⟩
      · rename_i hf
        refine Or.inr ⟨[], Or.inr ⟨hf, rfl⟩, ?_⟩
        rw [show ({ p.redis with faults := [] } : Redis) = p.redis by rw [← hf]]
    · refine Or.inl ?_
      simp only
      rw [Stage.advance, if_neg hr, set_same hi]

/-! ## 3. Every call gets its own number -/

/-- The number a call holds on a channel between its INCR and its XADD. -/
def heldOf (channel : Channel) (c : PublishCall × Stage) : List Int :=
  match c.2 with
  | .numbered n => if c.1.channel = channel then [n] else []
  | _ => []

/-- The numbers handed out on a channel and not yet appended. -/
def heldOn (channel : Channel) (calls : List (PublishCall × Stage)) : List Int :=
  calls.flatMap (heldOf channel)

/-- The sequences of a channel: those in the history of its stream, then those still held. -/
def numbers (p : Publishers) (channel : Channel) : List Int :=
  (p.redis.appended channel).map StreamEntry.sequence ++ heldOn channel p.calls

/-- No number is used twice, and all of them lie between 1 and the counter. -/
def Numbered (p : Publishers) : Prop :=
  ∀ channel, 0 ≤ p.redis.sequence channel ∧ (p.numbers channel).Nodup ∧
    ∀ n ∈ p.numbers channel, 1 ≤ n ∧ n ≤ p.redis.sequence channel

theorem heldOn_split (channel : Channel) (before after : List (PublishCall × Stage))
    (c : PublishCall × Stage) :
    heldOn channel (before ++ c :: after)
      = heldOn channel before ++ (heldOf channel c ++ heldOn channel after) := by
  simp [heldOn]

/-- Moving numbers around, or dropping some, keeps them distinct and in range. -/
theorem Numbered.of_subperm {p q : Publishers} (hp : p.Numbered)
    (h : ∀ channel, (q.numbers channel).Subperm (p.numbers channel))
    (hs : ∀ channel, p.redis.sequence channel ≤ q.redis.sequence channel) : q.Numbered := by
  intro channel
  obtain ⟨h0, hnd, hr⟩ := hp channel
  obtain ⟨l, hperm, hsub⟩ := h channel
  refine ⟨le_trans h0 (hs channel), hperm.nodup_iff.mp (hnd.sublist hsub), fun n hn => ?_⟩
  obtain ⟨h1, h2⟩ := hr n (hsub.subset (hperm.mem_iff.mpr hn))
  exact ⟨h1, le_trans h2 (hs channel)⟩

theorem numbered_step (env : Env) (p : Publishers) (i : Nat) (hp : p.Numbered) :
    (p.step env i).Numbered := by
  rcases step_cases env p i with h | ⟨before, call, st, after, hc, -, hr, h⟩
  · rw [h]; exact hp
  rcases h with ⟨rest, -, h⟩ | ⟨fs, -, h⟩
  · -- a failed call drops the number it holds, if any
    rw [h]
    refine hp.of_subperm (fun channel => ?_) (fun _ => le_refl _)
    simp only [numbers, hc, heldOn_split]
    refine List.Sublist.subperm (List.Sublist.append (List.Sublist.refl _) ?_)
    exact List.Sublist.append (List.Sublist.refl _)
      (List.Sublist.append (List.nil_sublist _) (List.Sublist.refl _))
  rw [h]
  cases st with
  | start =>
    intro channel
    obtain ⟨h0, hnd, hrange⟩ := hp channel
    by_cases hch : call.channel = channel
    · -- INCR hands out a number above all the others
      subst hch
      have hperm : (Publishers.numbers ⟨(Stage.fire env call { p.redis with faults := fs }
          .start).1, before ++ (call, (Stage.fire env call { p.redis with faults := fs }
          .start).2) :: after⟩ call.channel).Perm
          ((p.redis.sequence call.channel + 1) :: p.numbers call.channel) := by
        simp only [numbers, hc, heldOn_split, Stage.fire, incr, heldOf, if_true,
          List.singleton_append, List.nil_append, ← List.append_assoc]
        exact List.perm_middle
      simp only [Stage.fire, incr, Function.update_self]
      refine ⟨by omega, hperm.nodup_iff.mpr (List.nodup_cons.mpr ⟨fun hm => ?_, hnd⟩),
        fun n hn => ?_⟩
      · have := (hrange _ hm).2
        omega
      · rcases List.mem_cons.mp (hperm.mem_iff.mp hn) with rfl | hn
        · omega
        · have := hrange n hn
          omega
    · have hsame : Publishers.numbers ⟨(Stage.fire env call { p.redis with faults := fs }
          .start).1, before ++ (call, (Stage.fire env call { p.redis with faults := fs }
          .start).2) :: after⟩ channel = p.numbers channel := by
        simp [numbers, hc, heldOn_split, Stage.fire, incr, heldOf, hch]
      have hne : channel ≠ call.channel := fun hh => hch hh.symm
      rw [hsame]
      simp only [Stage.fire, incr, Function.update_of_ne hne]
      exact ⟨h0, hnd, hrange⟩
  | numbered n =>
    refine hp.of_subperm (fun channel => List.Perm.subperm ?_) (fun _ => le_refl _)
    by_cases hch : call.channel = channel
    · -- XADD moves the number from the call to the stream
      subst hch
      simp only [numbers, hc, heldOn_split, Stage.fire, xadd, heldOf, if_true, Stage.entry,
        Function.update_self, List.map_append, List.map_cons, List.map_nil, List.nil_append,
        List.append_assoc]
      refine List.Perm.append_left _ ?_
      simp only [List.singleton_append]
      exact List.perm_middle.symm
    · have hne : channel ≠ call.channel := fun hh => hch hh.symm
      simp [numbers, hc, heldOn_split, Stage.fire, xadd, heldOf, hch, Function.update_of_ne hne]
  | stored n =>
    refine hp.of_subperm (fun channel => List.Perm.subperm ?_) (fun _ => ?_)
    · simp only [numbers, hc, heldOn_split, Stage.fire, xtrim, heldOf]
      split <;> rfl
    · simp only [Stage.fire, xtrim]
      split <;> exact le_refl _
  | trimmed n =>
    refine hp.of_subperm (fun channel => List.Perm.subperm ?_) (fun _ => le_refl _)
    simp only [numbers, hc, heldOn_split, Stage.fire, publish, heldOf]
    rfl
  | done n => exact absurd hr id
  | failed => exact absurd hr id

/-- **No two entries ever appended to a stream carry the same sequence**, whatever the
interleaving. -/
theorem appended_nodup (env : Env) (trims : List Nat) (calls : List PublishCall)
    (sched : List Nat) (channel : Channel) :
    (((runAll (step env) (start trims calls) sched).redis.appended channel).map
      StreamEntry.sequence).Nodup := by
  have h : (runAll (step env) (start trims calls) sched).Numbered := by
    refine runAll_invariant' (numbered_step env) sched _ (fun c => ?_)
    have hz : (start trims calls).numbers c = [] := by
      simp [numbers, start, heldOn, heldOf, List.flatMap_map]
    rw [hz]
    exact ⟨le_refl _, List.nodup_nil, by simp⟩
  exact (h channel).2.1.sublist (List.sublist_append_left _ _)

end Publishers

end Relay
