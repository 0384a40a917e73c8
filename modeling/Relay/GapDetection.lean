/-
# The gaps the client reports

`onMessage` compares each message that is not a duplicate with `lastSeen` of its channel, calls
`onGap` if numbers are missing between the two, and moves `lastSeen` up.  `unsubscribe` and the
errors that end a resumption make it forget.  Here this is the watcher of `Relay.Lib.Gaps`, one for
each channel, over every run of the client: messages in any order and as often as the server sends
them, any size of the dedup window, handlers that complete late, reconnects.

The number that the client expects next is a sum of JavaScript numbers, so it is right as long as
the numbers are safe integers.

`sightings` is what can be seen of a channel from outside the client: the calls of `onGap`, the
messages not suppressed, and the resets.

* `sightings_step`: one step is one number for the watcher, or a reset, or nothing.
* `tracks_run`: the invariant of the watcher, after every run.
* `gap_detection_exact`: since the last reset, everything between the first number accepted and
  `lastSeen` was accepted or reported, and no number was reported after it had been accepted.
* `unsafe_gap_reported`: beyond the safe integers a number that has arrived is reported missing.
-/
import Mathlib
import Relay.LiveClient
import Relay.Lib.Gaps

namespace Relay

open Sighting

namespace LiveClient

variable (opts : ClientOptions) (d : Channel)

/-! ## 1. What can be seen of a channel -/

/-- A call of `onGap` for the channel. -/
def gapOn : ClientEvent → Option Sighting
  | .gap channel expected received =>
    if channel = d then some (.gap expected received) else none
  | _ => none

/-- A message of the channel that is not suppressed. -/
def acceptedOn (s : LiveClient) : ClientAct → List Sighting
  | .frame (.message m) =>
    if m.channel = d ∧ s.suppresses opts m = false then [.accept m.sequence] else []
  | _ => []

/-- What a step shows of the channel. -/
def sightings (s : LiveClient) (a : ClientAct) : List Sighting :=
  (s.newEvents opts a).filterMap (gapOn d) ++ s.acceptedOn opts d a ++
    if forgets d a then [.reset] else []

/-! ## 2. One step -/

variable {opts d} {s : LiveClient} {a : ClientAct}

theorem acceptedOn_of_stale (h : s.fresh? a = none) : s.acceptedOn opts d a = [] := by
  unfold acceptedOn
  split
  · rename_i m
    rw [if_neg (fun hm => Bool.noConfusion ((suppresses_of_stale opts h).symm.trans hm.2))]
  · rfl

/-- The gap shown to the application is the watcher's, if the position is a safe integer. -/
theorem gapShown_filterMap (hsafe : ∀ n, s.client.lastSeen.get? d = some n → IsSafe n)
    (m : MessageFrame) : (s.client.gapShown m).filterMap (gapOn d) =
    if m.channel = d then shown (s.client.lastSeen.get? d) m.sequence else [] := by
  unfold RelayClient.gapShown shown
  by_cases hd : m.channel = d
  · subst hd
    rw [if_pos rfl]
    cases hseen : s.client.lastSeen.get? m.channel with
    | none => rfl
    | some previous =>
      simp only [toNumber_succ (hsafe previous hseen)]
      split
      · simp [gapOn]
      · rfl
  · rw [if_neg hd]
    split
    · rfl
    · split
      · simp [gapOn, hd]
      · rfl

theorem newEvents_gapOn : (s.newEvents opts a).filterMap (gapOn d) =
    match s.fresh? a with
    | some m => (s.client.gapShown m).filterMap (gapOn d)
    | none => [] := by
  -- `gapOn d` looks only at the gaps
  have hgap : gapOn d = fun e => e.gap?.bind fun g =>
      if g.1 = d then some (.gap g.2.1 g.2.2) else none := by
    funext e
    cases e <;> rfl
  have hsplit : ∀ l : List ClientEvent, l.filterMap (gapOn d) =
      (l.filterMap ClientEvent.gap?).filterMap
      fun g => if g.1 = d then some (.gap g.2.1 g.2.2) else none := by
    intro l
    rw [List.filterMap_filterMap, hgap]
  rw [hsplit, newEvents_gaps]
  cases s.fresh? a with
  | none => rfl
  | some m => exact (hsplit _).symm

/-- `lastSeen` of the channel moves as the watcher's position does. -/
theorem sightedAfter_get? (m : MessageFrame) : (s.client.sightedAfter m).get? d =
    if m.channel = d then watch (s.client.lastSeen.get? d) m.sequence
    else s.client.lastSeen.get? d := by
  unfold RelayClient.sightedAfter watch
  by_cases hd : m.channel = d
  · subst hd
    rw [if_pos rfl]
    cases hseen : s.client.lastSeen.get? m.channel with
    | none => simp [Dict.get?_set]
    | some previous =>
      simp only
      split
      · rename_i hlt
        rw [Dict.get?_set, if_pos rfl, max_eq_right (le_of_lt hlt)]
      · rename_i hle
        rw [hseen, max_eq_left (not_lt.mp hle)]
  · rw [if_neg hd]
    split
    · rw [Dict.get?_set, if_neg (Ne.symm hd)]
    · split
      · rw [Dict.get?_set, if_neg (Ne.symm hd)]
      · rfl

/-- **One step at one channel**: a number, a reset or nothing. -/
theorem sightings_step (opts : ClientOptions) (d : Channel) (s : LiveClient) (a : ClientAct)
    (hsafe : ∀ n, s.client.lastSeen.get? d = some n → IsSafe n) :
    (∃ m, a = .frame (.message m) ∧ m.channel = d ∧
      s.sightings opts d a =
        shown (s.client.lastSeen.get? d) m.sequence ++ [.accept m.sequence] ∧
      (s.step opts a).client.lastSeen.get? d =
        watch (s.client.lastSeen.get? d) m.sequence) ∨
    (s.sightings opts d a = [.reset] ∧ (s.step opts a).client.lastSeen.get? d = none) ∨
    (s.sightings opts d a = [] ∧
      (s.step opts a).client.lastSeen.get? d = s.client.lastSeen.get? d) := by
  have hseen := (stepped opts s a).lastSeen
  unfold sightings
  rw [newEvents_gapOn, hseen]
  cases hf : s.fresh? a with
  | some m =>
    obtain ⟨rfl, hnew⟩ := fresh?_eq_some opts hf
    simp only [gapShown_filterMap hsafe, sightedAfter_get?, acceptedOn, forgets, List.append_nil, hnew,
      and_true, Bool.false_eq_true, if_false]
    by_cases hd : m.channel = d
    · refine Or.inl ⟨m, rfl, hd, ?_, ?_⟩
      · rw [if_pos hd, if_pos hd]
      · rw [if_pos hd]
    · refine Or.inr (Or.inr ⟨?_, ?_⟩)
      · rw [if_neg hd, if_neg hd]
        rfl
      · rw [if_neg hd]
  | none =>
    rw [acceptedOn_of_stale hf]
    rw [forget_get?]
    refine Or.inr ?_
    cases forgets d a with
    | true => exact Or.inl ⟨rfl, rfl⟩
    | false => exact Or.inr ⟨rfl, rfl⟩

/-! ## 3. Runs -/

/-- The watcher's invariant, for a position that is a safe integer. -/
def TracksSafe (d : Channel) (s : LiveClient) (past : List Sighting) : Prop :=
  Tracks (s.client.lastSeen.get? d) (sinceReset past) ∧
    ∀ n, s.client.lastSeen.get? d = some n → IsSafe n

/-- A step keeps the watcher's invariant. -/
theorem tracks_step {past : List Sighting} (h : TracksSafe d s past)
    (hsafe : ∀ m, a = .frame (.message m) → m.channel = d → IsSafe m.sequence) :
    TracksSafe d (s.step opts a) (past ++ s.sightings opts d a) := by
  obtain ⟨ht, hold⟩ := h
  rcases sightings_step opts d s a hold with
    ⟨m, rfl, hd, hsee, hlast⟩ | ⟨hsee, hlast⟩ | ⟨hsee, hlast⟩
  · have hm : IsSafe m.sequence := hsafe m rfl hd
    refine ⟨?_, fun n hn => ?_⟩
    · rw [hsee, hlast, sinceReset_append _ (reset_not_mem_shown _ m.sequence)]
      exact ht.watch m.sequence
    · rw [hlast] at hn
      cases hseen : s.client.lastSeen.get? d with
      | none =>
        rw [hseen] at hn
        cases hn
        exact hm
      | some previous =>
        rw [hseen] at hn
        cases hn
        rcases max_choice previous m.sequence with hmax | hmax
        · rw [hmax]
          exact hold previous hseen
        · rw [hmax]
          exact hm
  · refine ⟨?_, fun n hn => nomatch hlast.symm.trans hn⟩
    rw [hsee, hlast, sinceReset_reset]
    exact tracks_nil
  · rw [TracksSafe, hsee, hlast, List.append_nil]
    exact ⟨ht, hold⟩

/-- What was seen of a channel in a run of a new client, since the last reset. -/
def seenOn (opts : ClientOptions) (d : Channel) (acts : List ClientAct) : List Sighting :=
  sinceReset (emitted (step opts) (sightings opts d) {} acts)

/-- The watcher's invariant holds after every run. -/
theorem tracks_run (opts : ClientOptions) (d : Channel) : ∀ (acts : List ClientAct)
    {s : LiveClient} {past : List Sighting}, TracksSafe d s past →
    (∀ m, .frame (.message m) ∈ acts → m.channel = d → IsSafe m.sequence) →
    TracksSafe d (runAll (step opts) s acts)
      (past ++ emitted (step opts) (sightings opts d) s acts)
  | [], s, past, h, _ => by
    rw [emitted_nil, List.append_nil]
    exact h
  | a :: acts, s, past, h, hsafe => by
    rw [emitted_cons, ← List.append_assoc]
    refine tracks_run opts d acts (tracks_step h ?_) ?_
    · exact fun m ha => hsafe m (ha ▸ List.mem_cons_self)
    · exact fun m hm => hsafe m (List.mem_cons_of_mem a hm)

/-- **Gap detection is complete and sound on every channel** whose sequences are safe integers.
Since the channel's last reset, every integer from the first sequence accepted up to `lastSeen` is
the sequence of an accepted message or lies in a gap that was reported, and when a gap was reported
none of its numbers had been accepted. -/
theorem gap_detection_exact (opts : ClientOptions) (acts : List ClientAct) (d : Channel)
    (hsafe : ∀ m, .frame (.message m) ∈ acts → m.channel = d → IsSafe m.sequence) :
    (∀ first rest, accepted (seenOn opts d acts) = first :: rest →
      ∃ last, (runAll (step opts) {} acts).client.lastSeen.get? d = some last ∧ first ≤ last ∧
        ∀ k, first ≤ k → k ≤ last → k ∈ accepted (seenOn opts d acts) ∨
          ∃ expected received, .gap expected received ∈ seenOn opts d acts ∧
            expected ≤ k ∧ k ≤ received - 1) ∧
    (accepted (seenOn opts d acts) = [] →
      (runAll (step opts) {} acts).client.lastSeen.get? d = none) ∧
    ∀ before expected received after,
      seenOn opts d acts = before ++ .gap expected received :: after →
      ∀ k, expected ≤ k → k ≤ received - 1 → k ∉ accepted before := by
  have hnew : TracksSafe d ({} : LiveClient) [] := ⟨tracks_nil, fun n h => nomatch h⟩
  have htracks : Tracks ((runAll (step opts) {} acts).client.lastSeen.get? d)
      (seenOn opts d acts) := (tracks_run opts d acts hnew hsafe).1
  refine ⟨?_, htracks.start.mpr, ?_⟩
  · intro first rest hacc
    obtain ⟨last, hlast⟩ : ∃ last,
        (runAll (step opts) {} acts).client.lastSeen.get? d = some last := by
      rw [← Option.ne_none_iff_exists']
      intro hnone
      rw [htracks.start.mp hnone] at hacc
      nomatch hacc
    refine ⟨last, hlast, ?_, ?_⟩
    · exact htracks.bound last hlast first (by rw [hacc]; exact List.mem_cons_self)
    · exact htracks.cover last first hlast (by rw [hacc, List.head?_cons])
  · intro before expected received after heq k hlow hhigh
    rw [heq] at htracks
    exact htracks.not_accepted_before hlow hhigh

/-- A MESSAGE of channel `c`. -/
def numbered (messageId : String) (sequence : Int) : ClientAct :=
  .frame (.message ⟨messageId, "c", sequence, 0, .null⟩)

/-- One message is missing, and nothing else is reported. -/
theorem gap_detection_missing_two :
    seenOn {} "c" [numbered "m1" 1, numbered "m3" 3] = [.accept 1, .gap 2 3, .accept 3] ∧
      ∀ before expected received after,
        seenOn {} "c" [numbered "m1" 1, numbered "m3" 3] =
          before ++ .gap expected received :: after →
        ∀ k, expected ≤ k → k ≤ received - 1 → k ∉ accepted before := by
  have hseen : seenOn {} "c" [numbered "m1" 1, numbered "m3" 3] =
      [.accept 1, .gap 2 3, .accept 3] := by decide +kernel
  refine ⟨hseen, (gap_detection_exact {} [numbered "m1" 1, numbered "m3" 3] "c" ?_).2.2⟩
  intro m hm _
  simp only [numbered, List.mem_cons, ClientAct.frame.injEq, ServerFrame.message.injEq,
    List.not_mem_nil, or_false] at hm
  rcases hm with rfl | rfl
  · decide
  · decide

/-- **Beyond the safe integers** a number that was accepted is reported missing: `2 ^ 53 + 1` has no
double, and the client expects `2 ^ 53` again. -/
theorem unsafe_gap_reported :
    seenOn {} "c" [numbered "m1" (2 ^ 53), numbered "m2" (2 ^ 53 + 2)] =
        [.accept (2 ^ 53)] ++ .gap (2 ^ 53) (2 ^ 53 + 2) :: [.accept (2 ^ 53 + 2)] ∧
      (2 : Int) ^ 53 ≤ 2 ^ 53 + 2 - 1 ∧ (2 : Int) ^ 53 ∈ accepted [.accept (2 ^ 53)] := by
  refine ⟨?_, ?_, ?_⟩ <;> decide +kernel

end LiveClient

end Relay
