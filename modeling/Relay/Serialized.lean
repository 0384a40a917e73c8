/-
# Publishing one message after another

`replay_complete_iff` says what overlapping publishers do to a replay.  Here every `publish_message`
runs to its end before the next one begins.  The number of a message is then its place in the
history of its channel, and MAXLEN and the age trim only ever take a beginning of that history
away.  What is left carries the numbers `lo..n` without a hole, so the one comparison
`last_ack + 1 < oldest` decides whether something above the position is gone.

* `serial_run`: after any number of publishes on any channels, the history of each channel is its
  calls, numbered from 1, and its stream an end of it;
* `replay_exact`: the replay from every position, its gap included.
-/
import Mathlib
import Relay.Replay

namespace Relay

open Redis

/-! ## 1. Runs of publishes -/

/-- Nothing has been published yet, and Redis is up.  Keys of other kinds may hold anything. -/
structure Redis.Blank (r : Redis) : Prop where
  up : r.faults = []
  sequence : ∀ channel, r.sequence channel = 0
  stream : ∀ channel, r.stream channel = []
  appended : ∀ channel, r.appended channel = []

/-- Some time passes, and a `publish_message` runs from beginning to end. -/
def publishAfter (env : Env) (r : Redis) (c : Nat × PublishCall) : Redis :=
  ((publishMessage env c.2.channel c.2.messageId c.2.payload).run { r with now := r.now + c.1 }).2

/-- The store after publishes that follow each other. -/
def publishSerially (env : Env) (r : Redis) (run : List (Nat × PublishCall)) : Redis :=
  runAll (publishAfter env) r run

/-- The calls of a run that are for the channel. -/
def callsOn (channel : Channel) (run : List (Nat × PublishCall)) : List PublishCall :=
  (run.map Prod.snd).filter (fun call => decide (call.channel = channel))

/-- What an entry says, its time apart: number, id and payload. -/
def StreamEntry.content (e : StreamEntry) : Int × String × Json :=
  (e.sequence, e.messageId, e.payload)

/-- The calls with their numbers, from 1 on. -/
def numbered (calls : List PublishCall) : List (Int × String × Json) :=
  calls.zipIdx.map (fun c => ((c.2 : Int) + 1, c.1.messageId, c.1.payload))

theorem numbered_snoc (calls : List PublishCall) (call : PublishCall) :
    numbered (calls ++ [call]) =
      numbered calls ++ [((calls.length : Int) + 1, call.messageId, call.payload)] := by
  simp [numbered, List.zipIdx_append]

theorem length_numbered (calls : List PublishCall) : (numbered calls).length = calls.length := by
  simp [numbered]

theorem getElem?_numbered (calls : List PublishCall) (i : Nat) :
    (numbered calls)[i]? =
      calls[i]?.map (fun call => ((i : Int) + 1, call.messageId, call.payload)) := by
  simp [numbered, Option.map_map, Function.comp_def]

/-- The numbers left when the first `k` calls are taken away. -/
theorem numbers_drop (calls : List PublishCall) (k : Nat) :
    ((numbered calls).drop k).map Prod.fst =
      (List.range' (k + 1) (calls.length - k)).map Int.ofNat := by
  refine List.ext_getElem? (fun i => ?_)
  simp only [List.getElem?_map, List.getElem?_drop, getElem?_numbered, Option.map_map]
  by_cases hi : k + i < calls.length
  · rw [List.getElem?_eq_getElem hi, List.getElem?_range' (by omega)]
    simp only [Option.map_some, Function.comp_apply, Option.some.injEq, Int.ofNat_eq_natCast]
    push_cast
    omega
  · rw [List.getElem?_eq_none (by omega), List.getElem?_eq_none (by simp; omega)]
    rfl

theorem mem_numbered {calls : List PublishCall} {i : Nat} (hi : i < calls.length) :
    ∃ c, (numbered calls)[i]? = some c ∧ c.1 = (i : Int) + 1 := by
  rw [getElem?_numbered, List.getElem?_eq_getElem hi]
  exact ⟨_, rfl, rfl⟩

/-- An entry after the first `k` has a number above `k`, an entry among them one up to `k`. -/
theorem mem_drop_numbered {calls : List PublishCall} {k : Nat} {c : Int × String × Json}
    (h : c ∈ (numbered calls).drop k) : (k : Int) < c.1 := by
  have hc := List.mem_map_of_mem (f := Prod.fst) h
  rw [numbers_drop] at hc
  obtain ⟨i, hi, hic⟩ := List.mem_map.mp hc
  rw [← hic]
  have := List.mem_range'_1.mp hi
  simp only [Int.ofNat_eq_natCast]
  omega

theorem mem_take_numbered {calls : List PublishCall} {k : Nat} {c : Int × String × Json}
    (h : c ∈ (numbered calls).take k) : 1 ≤ c.1 ∧ c.1 ≤ k := by
  obtain ⟨i, hi⟩ := List.mem_iff_getElem?.mp h
  rw [List.getElem?_take] at hi
  split at hi
  · rw [getElem?_numbered] at hi
    obtain ⟨call, -, rfl⟩ := Option.map_eq_some_iff.mp hi
    simp only
    omega
  · exact absurd hi (by simp)

/-- A position lies below one of the first `k` numbers exactly if it is below `k`. -/
theorem exists_take_numbered {calls : List PublishCall} {k : Nat} (hk : k ≤ calls.length)
    {position : Int} (h0 : 0 ≤ position) :
    (∃ c ∈ (numbered calls).take k, position < c.1) ↔ position < k := by
  constructor
  · rintro ⟨c, hc, hlt⟩
    have := mem_take_numbered hc
    omega
  · intro hlt
    have hlast : k - 1 < calls.length := by omega
    obtain ⟨c, hc, hnum⟩ := mem_numbered hlast
    refine ⟨c, List.mem_iff_getElem?.mpr ⟨k - 1, ?_⟩, by omega⟩
    rw [List.getElem?_take, if_pos (by omega)]
    exact hc

/-! ## 2. One publish -/

section Publish

variable (env : Env) (call : PublishCall) {r : Redis}

/-- XTRIM takes nothing but entries of the stream. -/
theorem xtrim_frame (channel : Channel) (r : Redis) : (xtrim channel r).1 = .ok () ∧
    (xtrim channel r).2.faults = r.faults ∧ (xtrim channel r).2.appended = r.appended ∧
      (xtrim channel r).2.sequence = r.sequence := by
  unfold xtrim
  split <;> exact ⟨rfl, rfl, rfl, rfl⟩

/-- The four commands of a publish that nothing disturbs. -/
theorem publishMessage_run (hup : r.faults = []) :
    (publishMessage env call.channel call.messageId call.payload).run r =
      (.ok ⟨call.messageId, r.sequence call.channel + 1⟩,
        (publish call.channel (Stage.envelope call (r.sequence call.channel + 1))
          (xtrim call.channel (xadd call.channel env.settings.channelBufferMaxMessages
            (Stage.entry call (r.sequence call.channel + 1)) (incr call.channel r).2).2).2).2) := by
  have hincr : (allocateSequence call.channel).run r =
      (.ok (r.sequence call.channel + 1), (incr call.channel r).2) := run_command_ok hup
  have hup2 : (xtrim call.channel (xadd call.channel env.settings.channelBufferMaxMessages
      (Stage.entry call (r.sequence call.channel + 1)) (incr call.channel r).2).2).2.faults = [] := by
    rw [(xtrim_frame _ _).2.1]
    exact hup
  have happend : (appendToChannelBuffer env call.channel call.messageId
      (r.sequence call.channel + 1) call.payload).run (incr call.channel r).2 =
      (.ok (), (xtrim call.channel (xadd call.channel env.settings.channelBufferMaxMessages
        (Stage.entry call (r.sequence call.channel + 1)) (incr call.channel r).2).2).2) := by
    have hxadd : (command (xadd call.channel env.settings.channelBufferMaxMessages
        (fun r' => (⟨call.messageId, r.sequence call.channel + 1, call.payload, r'.now⟩ :
          StreamEntry)))).run (incr call.channel r).2 =
        xadd call.channel env.settings.channelBufferMaxMessages
          (Stage.entry call (r.sequence call.channel + 1)) (incr call.channel r).2 :=
      run_command_ok hup
    refine (Prog.run_bind_ok hxadd).trans ?_
    have hxtrim : (command (xtrim call.channel)).run (xadd call.channel
        env.settings.channelBufferMaxMessages (Stage.entry call (r.sequence call.channel + 1))
          (incr call.channel r).2).2 = xtrim call.channel (xadd call.channel
        env.settings.channelBufferMaxMessages (Stage.entry call (r.sequence call.channel + 1))
          (incr call.channel r).2).2 := run_command_ok hup
    exact hxtrim.trans (Prod.ext (xtrim_frame _ _).1 rfl)
  refine (Prog.run_bind_ok hincr).trans ((Prog.run_bind_ok happend).trans ?_)
  exact Prog.run_bind_ok (run_command_ok hup2)

/-- The history of a channel after a publish: one entry more on the call's channel. -/
theorem appended_publish (hup : r.faults = []) (channel : Channel) :
    ((publishMessage env call.channel call.messageId call.payload).run r).2.appended channel =
      r.appended channel ++ if call.channel = channel then
        [Stage.entry call (r.sequence channel + 1) r] else [] := by
  rw [publishMessage_run env call hup]
  have htrim : ∀ q : Redis, (xtrim call.channel q).2.appended = q.appended :=
    fun q => (xtrim_frame _ q).2.2.1
  simp only [publish, htrim, xadd, incr, Function.update_apply]
  by_cases hch : call.channel = channel
  · subst hch
    simp [Stage.entry]
  · rw [if_neg (fun h => hch h.symm), if_neg hch, List.append_nil]

theorem sequence_publish (hup : r.faults = []) (channel : Channel) :
    ((publishMessage env call.channel call.messageId call.payload).run r).2.sequence channel =
      r.sequence channel + if call.channel = channel then 1 else 0 := by
  rw [publishMessage_run env call hup]
  have htrim : ∀ q : Redis, (xtrim call.channel q).2.sequence = q.sequence :=
    fun q => (xtrim_frame _ q).2.2.2
  simp only [publish, htrim, xadd, incr, Function.update_apply]
  by_cases hch : call.channel = channel
  · subst hch
    simp
  · rw [if_neg (fun h => hch h.symm), if_neg hch, add_zero]

/-- The stream is still an end of the history, whatever MAXLEN is. -/
theorem suffix_publish (hup : r.faults = []) {channel : Channel}
    (h : r.stream channel <:+ r.appended channel) :
    ((publishMessage env call.channel call.messageId call.payload).run r).2.stream channel <:+
      ((publishMessage env call.channel call.messageId call.payload).run r).2.appended channel := by
  rw [publishMessage_run env call hup]
  have hincr : (incr call.channel r).2.stream channel <:+ (incr call.channel r).2.appended channel := h
  exact suffix_xtrim (suffix_xadd hincr call.channel env.settings.channelBufferMaxMessages
    (Stage.entry call (r.sequence call.channel + 1))) call.channel

theorem faults_publish (hup : r.faults = []) :
    ((publishMessage env call.channel call.messageId call.payload).run r).2.faults = [] := by
  rw [publishMessage_run env call hup]
  exact (xtrim_frame _ _).2.1.trans hup

/-- With room for one message no stream is ever trimmed to nothing. -/
theorem retains_publish (hm : 1 ≤ env.settings.channelBufferMaxMessages) (hr : Retains r) :
    Retains ((publishMessage env call.channel call.messageId call.payload).run r).2 := by
  rw [publishMessage_run env call hr.1]
  have hincr : Retains (incr call.channel r).2 := ⟨hr.1, hr.2⟩
  have htrim := retains_xtrim (retains_xadd hincr call.channel hm
    (Stage.entry call (r.sequence call.channel + 1))) call.channel
  exact ⟨htrim.1, htrim.2⟩

end Publish

/-! ## 3. The store after serial publishes -/

/-- The history of the channel is its calls with their numbers, and the stream is an end of it. -/
structure Serial (channel : Channel) (calls : List PublishCall) (r : Redis) : Prop where
  count : r.sequence channel = calls.length
  history : (r.appended channel).map StreamEntry.content = numbered calls
  retained : r.stream channel <:+ r.appended channel

theorem callsOn_snoc (channel : Channel) (run : List (Nat × PublishCall)) (c : Nat × PublishCall) :
    callsOn channel (run ++ [c]) =
      callsOn channel run ++ if c.2.channel = channel then [c.2] else [] := by
  simp only [callsOn, List.map_append, List.map_cons, List.map_nil, List.filter_append]
  congr 1
  by_cases h : c.2.channel = channel <;> simp [h]

theorem serial_next (env : Env) {channel : Channel} {run : List (Nat × PublishCall)} {r : Redis}
    (hup : r.faults = []) (h : Serial channel (callsOn channel run) r) (c : Nat × PublishCall) :
    Serial channel (callsOn channel (run ++ [c])) (publishAfter env r c) := by
  have hup' : ({ r with now := r.now + c.1 } : Redis).faults = [] := hup
  unfold publishAfter
  refine ⟨?_, ?_, suffix_publish env c.2 hup' h.retained⟩
  · rw [sequence_publish env c.2 hup', callsOn_snoc]
    have hcount := h.count
    split <;> simp [hcount]
  · rw [appended_publish env c.2 hup', callsOn_snoc, List.map_append]
    have hhist : (({ r with now := r.now + c.1 } : Redis).appended channel).map StreamEntry.content =
        numbered (callsOn channel run) := h.history
    rw [hhist]
    split
    · rw [numbered_snoc, ← h.count]
      rfl
    · simp

/-- **After publishes that follow each other**, on any channels, with any buffer size and whatever
the age trims find. -/
theorem serial_run (env : Env) {r₀ : Redis} (h₀ : r₀.Blank) (run : List (Nat × PublishCall)) :
    (publishSerially env r₀ run).faults = [] ∧
      ∀ channel, Serial channel (callsOn channel run) (publishSerially env r₀ run) := by
  induction run using List.reverseRecOn with
  | nil =>
    refine ⟨h₀.up, fun channel => ⟨h₀.sequence channel, ?_, ?_⟩⟩
    · show (r₀.appended channel).map StreamEntry.content = _
      rw [h₀.appended channel]
      rfl
    · show r₀.stream channel <:+ _
      rw [h₀.stream channel]
      exact List.nil_suffix
  | append_singleton run c ih =>
    obtain ⟨hup, hser⟩ := ih
    have hstep : publishSerially env r₀ (run ++ [c]) =
        publishAfter env (publishSerially env r₀ run) c := runAll_append _ _ _ _
    rw [hstep]
    exact ⟨faults_publish env c.2 hup, fun channel => serial_next env hup (hser channel) c⟩

/-- With room for one message, a stream with a history is not empty. -/
theorem retains_serially (env : Env) (hm : 1 ≤ env.settings.channelBufferMaxMessages) {r₀ : Redis}
    (h₀ : r₀.Blank) (run : List (Nat × PublishCall)) : Retains (publishSerially env r₀ run) := by
  refine runAll_invariant' (fun r c hr => ?_) run r₀ ⟨h₀.up, fun channel => ?_⟩
  · exact retains_publish env c.2 hm (r := { r with now := r.now + c.1 }) ⟨hr.1, hr.2⟩
  · rw [h₀.appended channel, h₀.stream channel]
    exact ⟨List.suffix_refl _, fun _ => rfl⟩

section Stream

variable {channel : Channel} {calls : List PublishCall} {r : Redis}

/-- How many messages of the channel are gone. -/
def lost (r : Redis) (channel : Channel) : Nat :=
  (r.appended channel).length - (r.stream channel).length

/-- A stream that is never trimmed to nothing is empty only before the first message. -/
theorem lost_eq_zero (hr : Retains r) (h : r.stream channel = []) : lost r channel = 0 := by
  rw [lost, (hr.2 channel).2 h]
  exact Nat.zero_sub _

/-- The stream is what is left of the numbered calls. -/
theorem Serial.stream (h : Serial channel calls r) :
    (r.stream channel).map StreamEntry.content = (numbered calls).drop (lost r channel) := by
  obtain ⟨old, hold⟩ := h.retained
  have hlost : lost r channel = old.length := by
    rw [lost, ← hold, List.length_append, Nat.add_sub_cancel]
  rw [← h.history, ← List.map_drop, hlost, ← hold, List.drop_left]

theorem Serial.length (h : Serial channel calls r) :
    calls.length = lost r channel + (r.stream channel).length := by
  have hlen := congrArg List.length h.history
  rw [List.length_map, length_numbered] at hlen
  have hle := h.retained.length_le
  simp only [lost]
  omega

/-- Its numbers go up. -/
theorem Serial.sorted (h : Serial channel calls r) :
    (r.stream channel).Pairwise (fun a b => a.sequence < b.sequence) := by
  have hnum : (r.stream channel).map StreamEntry.sequence =
      (List.range' (lost r channel + 1) (calls.length - lost r channel)).map Int.ofNat := by
    rw [← numbers_drop, ← h.stream, List.map_map]
    rfl
  have hlt : ((r.stream channel).map StreamEntry.sequence).Pairwise (· < ·) := by
    rw [hnum, List.pairwise_map]
    have hrange := List.pairwise_lt_range' (s := lost r channel + 1)
      (n := calls.length - lost r channel)
    exact hrange.imp (fun hab => Int.ofNat_lt.mpr hab)
  exact List.pairwise_map.mp hlt

/-- A replay of entries whose numbers go up keeps them as they are. -/
theorem replayOf_messages {entries : List StreamEntry} (lastAck : Int)
    (h : entries.Pairwise (fun a b => a.sequence < b.sequence)) :
    (replayOf entries lastAck).messages =
      entries.filter (fun e => decide (lastAck < e.sequence)) := by
  have hsort : entries.insertionSort (fun a b => a.sequence ≤ b.sequence) = entries :=
    List.Pairwise.insertionSort_eq (h.imp (fun hab => hab.le))
  unfold replayOf
  simp only [hsort]
  cases entries with
  | nil => rfl
  | cons oldest rest => rfl

/-- **The gap test.**  Where something is left, and the position is not 0, it says whether a message
above the position is gone. -/
theorem Serial.gap_iff (h : Serial channel calls r) {lastAck : Int} (hpos : 0 ≤ lastAck) :
    (replayOf (r.stream channel) lastAck).gap = true ↔ r.stream channel ≠ [] ∧
      lastAck ≠ 0 ∧ ∃ c ∈ (numbered calls).take (lost r channel), lastAck < c.1 := by
  have hstream := h.stream
  have hlen := h.length
  rw [replayOf_gap_iff]
  refine and_congr_right (fun hne => and_congr_right (fun h0 => ⟨fun hall => ?_, ?_⟩))
  · -- the oldest message left has the number `lost + 1`
    have hlt : lost r channel < calls.length := by
      have := List.length_pos_iff.mpr hne
      omega
    obtain ⟨c, hc, hnum⟩ := mem_numbered hlt
    have hmem : c ∈ (r.stream channel).map StreamEntry.content := by
      rw [hstream]
      exact List.mem_iff_getElem?.mpr ⟨0, by rw [List.getElem?_drop]; exact hc⟩
    obtain ⟨e, he, rfl⟩ := List.mem_map.mp hmem
    have hnext := hall e he
    have hseq : e.sequence = (lost r channel : Int) + 1 := hnum
    exact (exists_take_numbered hlt.le hpos).mpr (by omega)
  · rintro ⟨c, hc, hlt⟩ e he
    have hle := mem_take_numbered hc
    have hmem := List.mem_map_of_mem (f := StreamEntry.content) he
    rw [hstream] at hmem
    have hgt : (lost r channel : Int) < e.sequence := mem_drop_numbered hmem
    omega

end Stream

/-- **The replay is exact when publishes follow each other.**  The stream holds the messages with the
numbers `lo..n` (`lo = k + 1`), and from every position the replay is exactly the retained messages
above it, each once and in order.  It reports a gap exactly when the client has a position and some
published message above it is gone, so from 1 on no gap means that nothing is missing. -/
theorem replay_exact (env : Env) (hm : 1 ≤ env.settings.channelBufferMaxMessages) (r₀ : Redis)
    (h₀ : r₀.Blank) (run : List (Nat × PublishCall)) (channel : Channel) :
    ∃ k, (k < (callsOn channel run).length ∨ k = 0 ∧ callsOn channel run = []) ∧
      ((publishSerially env r₀ run).stream channel).map StreamEntry.sequence =
        (List.range' (k + 1) ((callsOn channel run).length - k)).map Int.ofNat ∧
      ((publishSerially env r₀ run).stream channel).map StreamEntry.content =
        (numbered (callsOn channel run)).drop k ∧
      ∀ lastAck : Int, 0 ≤ lastAck →
        ∃ result, ((replayChannel channel lastAck).run (publishSerially env r₀ run)).1 = .ok result ∧
          result.messages = ((publishSerially env r₀ run).stream channel).filter
            (fun e => decide (lastAck < e.sequence)) ∧
          result.messages.Pairwise (fun a b => a.sequence < b.sequence) ∧
          (result.gap = true ↔ lastAck ≠ 0 ∧
            ∃ c ∈ (numbered (callsOn channel run)).take k, lastAck < c.1) ∧
          (1 ≤ lastAck → (result.gap = false ↔ ∀ c ∈ numbered (callsOn channel run),
            lastAck < c.1 → c ∈ result.messages.map StreamEntry.content)) := by
  have hret := retains_serially env hm h₀ run
  have hser := (serial_run env h₀ run).2 channel
  have hstream := hser.stream
  have hsorted := hser.sorted
  have hlen := hser.length
  have hk : lost (publishSerially env r₀ run) channel < (callsOn channel run).length ∨
      lost (publishSerially env r₀ run) channel = 0 ∧ callsOn channel run = [] := by
    by_cases hnil : (publishSerially env r₀ run).stream channel = []
    · have hzero := lost_eq_zero hret hnil
      rw [hnil, hzero] at hlen
      exact Or.inr ⟨hzero, List.length_eq_zero_iff.mp hlen⟩
    · have := List.length_pos_iff.mpr hnil
      exact Or.inl (by omega)
  refine ⟨lost (publishSerially env r₀ run) channel, hk, ?_, hstream, fun lastAck hpos => ?_⟩
  · rw [← numbers_drop, ← hstream, List.map_map]
    rfl
  have hmessages := replayOf_messages lastAck hsorted
  -- a message that is gone leaves a later one behind
  have hgap : (replayOf ((publishSerially env r₀ run).stream channel) lastAck).gap = true ↔
      lastAck ≠ 0 ∧ ∃ c ∈ (numbered (callsOn channel run)).take
        (lost (publishSerially env r₀ run) channel), lastAck < c.1 := by
    rw [hser.gap_iff hpos]
    refine and_iff_right_of_imp (fun ⟨_, c, hc, _⟩ hnil => ?_)
    rw [lost_eq_zero hret hnil] at hc
    exact absurd hc (by simp)
  refine ⟨_, congrArg Prod.fst (replayChannel_run hret.1 channel lastAck), hmessages, ?_, hgap,
    fun h1 => ?_⟩
  · rw [hmessages]
    exact hsorted.filter _
  · rw [hmessages, ← Bool.not_eq_true, hgap]
    constructor
    · intro hno c hc hlt
      rw [← List.take_append_drop (lost (publishSerially env r₀ run) channel)
        (numbered (callsOn channel run))] at hc
      rcases List.mem_append.mp hc with hc | hc
      · exact absurd ⟨by omega, c, hc, hlt⟩ hno
      · rw [← hstream] at hc
        obtain ⟨e, he, rfl⟩ := List.mem_map.mp hc
        exact List.mem_map_of_mem (List.mem_filter.mpr ⟨he, decide_eq_true hlt⟩)
    · rintro hall ⟨-, c, hc, hlt⟩
      have hin := hall c (List.mem_of_mem_take hc) hlt
      obtain ⟨e, he, rfl⟩ := List.mem_map.mp hin
      have hdrop := List.mem_map_of_mem (f := StreamEntry.content) (List.mem_filter.mp he).1
      rw [hstream] at hdrop
      have hgt := mem_drop_numbered hdrop
      have hle := mem_take_numbered hc
      omega

/-- Two messages on a channel with room for one, and a client that has seen the first. -/
def twoInOrder : List (Nat × PublishCall) :=
  [(0, ⟨"t-a:c", "m1", .obj []⟩), (1500000, ⟨"t-a:c", "m2", .obj []⟩)]

theorem blank_empty : Redis.Blank {} := ⟨rfl, fun _ => rfl, fun _ => rfl, fun _ => rfl⟩

/-- The first message is gone, the second is replayed, and nothing is missing. -/
theorem replay_of_second :
    ∃ result, ((replayChannel "t-a:c" 1).run
        (publishSerially (.plain { channelBufferMaxMessages := 1 }) {} twoInOrder)).1 = .ok result ∧
      result.messages.map StreamEntry.messageId = ["m2"] ∧ result.gap = false := by
  obtain ⟨k, -, -, -, hall⟩ := replay_exact (.plain { channelBufferMaxMessages := 1 }) (by decide) {}
    blank_empty twoInOrder "t-a:c"
  obtain ⟨result, hrun, hmessages, -, -, hcomplete⟩ := hall 1 (by decide)
  refine ⟨result, hrun, by rw [hmessages]; rfl, (hcomplete (by decide)).mpr ?_⟩
  intro c hc hlt
  rw [hmessages]
  rcases List.mem_cons.mp hc with rfl | hc
  · exact absurd hlt (by decide)
  · exact hc

end Relay
