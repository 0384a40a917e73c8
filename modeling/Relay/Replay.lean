/-
# What a replay can and cannot know

`replay_channel` reports a gap when the client's next message is older than the oldest retained
one.  It sees only the entries still in the stream, so the test is sound exactly when eviction
removes the LOWEST sequences first.  Redis evicts in the order of the XADDs, and the number of a
message is fixed earlier, at its INCR.  Two publishers that take their numbers in one order and
append in the other break the test: the later number can be evicted while the earlier one stays.

`replay_complete_iff` makes this exact.  The replay is honest for every position if and only if
every evicted sequence (from 2 on: nobody who has acknowledged anything waits for 1) lies below
every retained one.
-/
import Mathlib
import Relay.Publish

namespace Relay

open Redis

/-! ## 1. The replay as a function of the retained entries -/

/-- The replayed messages are the retained entries above the position. -/
theorem mem_replayOf {entries : List StreamEntry} {lastAck : Int} {e : StreamEntry} :
    e ∈ (replayOf entries lastAck).messages ↔ e ∈ entries ∧ lastAck < e.sequence := by
  have hperm := List.perm_insertionSort (fun a b : StreamEntry => a.sequence ≤ b.sequence) entries
  unfold replayOf
  simp only
  split
  · rename_i h
    rw [h] at hperm
    simp [hperm.symm.eq_nil]
  · rename_i oldest rest h
    rw [List.mem_filter, hperm.mem_iff, decide_eq_true_eq]

/-- A gap is reported when something is retained, the client has a position, and its next message
lies below everything retained. -/
theorem replayOf_gap_iff {entries : List StreamEntry} {lastAck : Int} :
    (replayOf entries lastAck).gap = true ↔
      entries ≠ [] ∧ lastAck ≠ 0 ∧ ∀ e ∈ entries, lastAck + 1 < e.sequence := by
  have hperm := List.perm_insertionSort (fun a b : StreamEntry => a.sequence ≤ b.sequence) entries
  have hsort := List.pairwise_insertionSort
    (fun a b : StreamEntry => a.sequence ≤ b.sequence) entries
  unfold replayOf
  simp only
  split
  · rename_i h
    rw [h] at hperm
    simp [hperm.symm.eq_nil]
  · rename_i oldest rest h
    rw [h] at hperm hsort
    have hne : entries ≠ [] := by
      rintro rfl
      exact absurd hperm.eq_nil (by simp)
    simp only [Bool.and_eq_true, decide_eq_true_eq]
    constructor
    · rintro ⟨hlt, h0⟩
      refine ⟨hne, h0, fun e he => ?_⟩
      rcases List.mem_cons.mp (hperm.mem_iff.mpr he) with rfl | he
      · exact hlt
      · exact lt_of_lt_of_le hlt ((List.pairwise_cons.mp hsort).1 e he)
    · rintro ⟨-, h0, hall⟩
      exact ⟨hall oldest (hperm.mem_iff.mp List.mem_cons_self), h0⟩

/-- With Redis up, `replay_channel` computes the replay of the stream as it is. -/
theorem replayChannel_run {r : Redis} (hf : r.faults = []) (channel : Channel) (lastAck : Int) :
    (replayChannel channel lastAck).run r
      = (.ok (replayOf (r.stream channel) lastAck), (xrange channel r).2) := by
  exact Prog.run_bind_ok (run_command_ok hf)

/-! ## 2. What eviction leaves of the history -/

/-- The entries of a channel that are no longer in its stream. -/
def evicted (r : Redis) (channel : Channel) : List StreamEntry :=
  (r.appended channel).take ((r.appended channel).length - (r.stream channel).length)

/-- Redis is up, and every stream is the end of its history and never trimmed to nothing. -/
def Retains (r : Redis) : Prop :=
  r.faults = [] ∧ ∀ channel, r.stream channel <:+ r.appended channel ∧
    (r.stream channel = [] → r.appended channel = [])

theorem Retains.appended_eq {r : Redis} (h : Retains r) (channel : Channel) :
    r.appended channel = evicted r channel ++ r.stream channel := by
  obtain ⟨old, hold⟩ := (h.2 channel).1
  have hev : evicted r channel = old := by
    rw [evicted, ← hold, List.length_append, Nat.add_sub_cancel, List.take_left]
  rw [hev, hold]

/-- XADD leaves every stream an end of its history, whatever MAXLEN is. -/
theorem suffix_xadd {r : Redis} {c : Channel} (h : r.stream c <:+ r.appended c) (channel : Channel)
    (maxlen : Nat) (entry : Redis → StreamEntry) :
    (xadd channel maxlen entry r).2.stream c <:+ (xadd channel maxlen entry r).2.appended c := by
  simp only [xadd]
  rcases eq_or_ne c channel with rfl | hc
  · simp only [Function.update_self]
    obtain ⟨old, hold⟩ := h
    exact (List.drop_suffix _ _).trans ⟨old, by rw [← hold, List.append_assoc]⟩
  · simpa only [Function.update_of_ne hc] using h

/-- So does XTRIM. -/
theorem suffix_xtrim {r : Redis} {c : Channel} (h : r.stream c <:+ r.appended c)
    (channel : Channel) : (xtrim channel r).2.stream c <:+ (xtrim channel r).2.appended c := by
  unfold xtrim
  split
  · exact h
  rcases eq_or_ne c channel with rfl | hc
  · simp only [Function.update_self]
    exact (List.drop_suffix _ _).trans h
  · simpa only [Function.update_of_ne hc] using h

theorem retains_xadd {r : Redis} (hr : Retains r) (channel : Channel) {maxlen : Nat}
    (hm : 1 ≤ maxlen) (entry : Redis → StreamEntry) :
    Retains (xadd channel maxlen entry r).2 := by
  refine ⟨hr.1, fun c => ⟨suffix_xadd (hr.2 c).1 channel maxlen entry, fun h => ?_⟩⟩
  simp only [xadd] at h ⊢
  rcases eq_or_ne c channel with rfl | hc
  · -- the entry just added is still there
    simp only [Function.update_self, List.drop_eq_nil_iff, List.length_append,
      List.length_singleton] at h
    omega
  · simp only [Function.update_of_ne hc] at h ⊢
    exact (hr.2 c).2 h

theorem retains_xtrim {r : Redis} (hr : Retains r) (channel : Channel) :
    Retains (xtrim channel r).2 := by
  have hsuf := fun c => suffix_xtrim (hr.2 c).1 channel
  unfold xtrim at hsuf ⊢
  split
  · exact hr
  rename_i k rest ht
  simp only [ht] at hsuf
  refine ⟨hr.1, fun c => ⟨hsuf c, fun h => (hr.2 c).2 ?_⟩⟩
  rcases eq_or_ne c channel with rfl | hc
  · simp only [Function.update_self] at h
    have := List.drop_eq_nil_iff.mp h
    exact List.length_eq_zero_iff.mp (by omega)
  · simpa only [Function.update_of_ne hc] using h

theorem retains_step {env : Env} (hm : 1 ≤ env.settings.channelBufferMaxMessages)
    (p : Publishers) (i : Nat) (hp : Retains p.redis) : Retains (p.step env i).redis := by
  rcases Publishers.step_cases env p i with h | ⟨before, call, st, after, -, -, -, h⟩
  · rw [h]; exact hp
  rcases h with ⟨rest, hfault, -⟩ | ⟨fs, hfs, h⟩
  · exact absurd (hp.1.symm.trans hfault) (by simp)
  have hfs : fs = [] := by
    rcases hfs with hfs | ⟨-, hfs⟩
    · exact absurd (hp.1.symm.trans hfs) (by simp)
    · exact hfs
  have hp' : Retains { p.redis with faults := fs } := ⟨hfs, hp.2⟩
  rw [h]
  cases st with
  | start => exact ⟨hfs, hp.2⟩
  | numbered n => exact retains_xadd hp' _ hm _
  | stored n => exact retains_xtrim hp' _
  | trimmed n => exact ⟨hfs, hp.2⟩
  | done n => exact hp'
  | failed => exact hp'

theorem retains_run {env : Env} (hm : 1 ≤ env.settings.channelBufferMaxMessages)
    (trims : List Nat) (calls : List PublishCall) (sched : List Nat) :
    Retains (runAll (Publishers.step env) (Publishers.start trims calls) sched).redis :=
  @runAll_invariant' _ _ _ (fun p : Publishers => Retains p.redis) (retains_step hm) sched _
    ⟨rfl, fun _ => ⟨List.suffix_refl _, fun h => h⟩⟩

/-! ## 3. When a replay is honest -/

/-- The replay from `lastAck` does not skip anything without saying so: unless it reports a gap,
it contains every message ever appended above the position. -/
def ReplayComplete (r : Redis) (channel : Channel) (lastAck : Int) : Prop :=
  ∃ result, ((replayChannel channel lastAck).run r).1 = .ok result ∧
    (result.gap = false →
      ∀ e ∈ r.appended channel, lastAck < e.sequence → e ∈ result.messages)

/-- The argument for one store: only the order of the history and what is left of it matter. -/
theorem replayComplete_iff {r : Redis} (hr : Retains r) {channel : Channel}
    (hnd : ((r.appended channel).map StreamEntry.sequence).Nodup) :
    (∀ lastAck ≥ 1, ReplayComplete r channel lastAck) ↔
      ∀ old ∈ evicted r channel, 2 ≤ old.sequence →
        ∀ kept ∈ r.stream channel, old.sequence < kept.sequence := by
  have happ := hr.appended_eq channel
  have hdisj : ∀ old ∈ evicted r channel, ∀ kept ∈ r.stream channel,
      old.sequence ≠ kept.sequence := by
    rw [happ, List.map_append, List.nodup_append] at hnd
    intro old ho kept hk
    exact hnd.2.2 _ (List.mem_map_of_mem ho) _ (List.mem_map_of_mem hk)
  constructor
  · intro h old ho h2 kept hk
    by_contra hlt
    have hne := hdisj old ho kept hk
    -- a client that waits for `old` is told there is no gap, because `kept` lies below
    obtain ⟨result, hrun, hall⟩ := h (old.sequence - 1) (by omega)
    rw [replayChannel_run hr.1] at hrun
    obtain rfl := Except.ok.inj hrun
    have hgap : (replayOf (r.stream channel) (old.sequence - 1)).gap = false := by
      rw [Bool.eq_false_iff, Ne, replayOf_gap_iff]
      rintro ⟨-, -, hall⟩
      have := hall kept hk
      omega
    have hin := hall hgap old (by rw [happ]; exact List.mem_append_left _ ho) (by omega)
    exact hdisj old ho old (mem_replayOf.mp hin).1 rfl
  · intro h lastAck h1
    refine ⟨_, congrArg Prod.fst (replayChannel_run hr.1 channel lastAck),
      fun hgap e he hlt => ?_⟩
    refine mem_replayOf.mpr ⟨?_, hlt⟩
    rw [Bool.eq_false_iff, Ne, replayOf_gap_iff] at hgap
    push Not at hgap
    rw [happ] at he
    rcases List.mem_append.mp he with hev | hin
    · -- an evicted message above the position lies below everything kept, so the gap shows
      have hne : r.stream channel ≠ [] := fun hn => by
        rw [(hr.2 channel).2 hn] at happ
        rw [(List.append_eq_nil_iff.mp happ.symm).1] at hev
        exact absurd hev (List.not_mem_nil)
      obtain ⟨kept, hk, hle⟩ := hgap hne (by omega)
      have := h e hev (by omega) kept hk
      omega
    · exact hin

/-- **When concurrent publishers leave the replay honest.**  After any schedule of any number of
`publish_message` calls, with any buffer size from 1 on, the replay is complete or reports a gap
for every position a client can have acknowledged, if and only if every evicted sequence from 2 on
lies below every retained one. -/
theorem replay_complete_iff (env : Env) (hm : 1 ≤ env.settings.channelBufferMaxMessages)
    (trims : List Nat) (calls : List PublishCall) (sched : List Nat) (channel : Channel) :
    (∀ lastAck ≥ 1,
        ReplayComplete ((Publishers.pool env trims calls).exec sched).state channel lastAck) ↔
      ∀ old ∈ evicted ((Publishers.pool env trims calls).exec sched).state channel,
        2 ≤ old.sequence →
          ∀ kept ∈ ((Publishers.pool env trims calls).exec sched).state.stream channel,
            old.sequence < kept.sequence := by
  rw [Publishers.pool_state]
  exact replayComplete_iff (retains_run hm trims calls sched)
    (Publishers.appended_nodup env trims calls sched channel)

/-- Two publishers of one channel and a buffer of one message. -/
def twoPublishers : Pool Redis Exn PublishResult :=
  Publishers.pool (.plain { channelBufferMaxMessages := 1 }) []
    [⟨"t-a:c", "m1", .obj []⟩, ⟨"t-a:c", "m2", .obj []⟩]

/-- The first publisher takes number 1, the second takes 2 and finishes, the first appends. -/
def overtaking : List Nat := [0, 1, 1, 1, 1, 0, 0, 0]

/-- Both publishes have finished, message 2 was appended and is evicted, message 1 is retained: a
client that has acknowledged 1 is told that nothing is missing. -/
theorem replay_skips_overtaking_publish :
    (∀ task ∈ (twoPublishers.exec overtaking).tasks, task.returned = true) ∧
      ((twoPublishers.exec overtaking).state.appended "t-a:c").map StreamEntry.sequence = [2, 1] ∧
      ¬ ReplayComplete (twoPublishers.exec overtaking).state "t-a:c" 1 := by
  refine ⟨by decide, rfl, ?_⟩
  · rintro ⟨result, hrun, hall⟩
    have hres : ((replayChannel "t-a:c" 1).run (twoPublishers.exec overtaking).state).1
        = .ok ⟨[], false⟩ := rfl
    obtain rfl := Except.ok.inj (hres.symm.trans hrun)
    exact absurd (hall rfl ⟨"m2", 2, .obj [], 0⟩ (List.mem_cons_self) (by decide))
      List.not_mem_nil

/-- The same two publishers one after the other: what is evicted lies below what is kept. -/
theorem replay_complete_in_order :
    ReplayComplete (twoPublishers.exec [0, 0, 0, 0, 1, 1, 1, 1]).state "t-a:c" 1 := by
  refine (replay_complete_iff (.plain { channelBufferMaxMessages := 1 }) (by decide) []
    [⟨"t-a:c", "m1", .obj []⟩, ⟨"t-a:c", "m2", .obj []⟩] [0, 0, 0, 0, 1, 1, 1, 1] "t-a:c").mpr ?_
    1 (le_refl _)
  intro old ho h2
  obtain rfl : old = ⟨"m1", 1, .obj [], 0⟩ := List.mem_singleton.mp ho
  exact absurd h2 (by decide)

end Relay
