/-
# What the client resumes from

`lastAck` is what RESUME names after a reconnect, and the server replays from it and re-attaches
every channel it names.  Two things can go wrong with it, over the runs of the client.

**Given up for another channel.**  The server reports gaps channel by channel: `_frame_loop` sends
`ERROR(RESUME_GAP, channel)` for the one and replays the others.  The client clears both maps.

* `givesUp_iff`: what a step drops or lowers, and where.
* `resume_points_kept_iff`: in a run no channel's position is given up for another one iff, whenever
  such an error arrives, the channel that it names is the only one with a position.
* `gap_clears_other_channels`: a gap on one of two channels; the next reconnect resumes neither.

**Written after `unsubscribe`.**  `unsubscribe` deletes the position, but a message that was still
on its way, or whose handler was still running, is acknowledged after that and sets it again.

* `unrevived_iff`: a step puts a position under a channel that is not subscribed iff it acknowledges
  a message there.
* `resume_names_subscribed_iff`: in a run every RESUME names subscribed channels only iff every
  message that is acknowledged is one of a channel still subscribed, or not above its position.
* `resume_revives_channel`: one message in flight during `unsubscribe`.
-/
import Mathlib
import Relay.LiveClient

namespace Relay

namespace LiveClient

variable {opts : ClientOptions} {s : LiveClient} {a : ClientAct} {d : Channel}

/-! ## 1. Positions that are removed or lowered -/

/-- The channel has lost its position, or has a lower one. -/
def Lost (d : Channel) (before after : Dict Channel Int) : Prop :=
  ∃ n, before.get? d = some n ∧ ∀ n', after.get? d = some n' → n' < n

theorem not_lost_self (positions : Dict Channel Int) : ¬ Lost d positions positions := by
  rintro ⟨n, hn, hlow⟩
  exact lt_irrefl n (hlow n hn)

/-- Writing a position that is not below the old one. -/
theorem not_lost_set {positions : Dict Channel Int} {channel : Channel} {sequence : Int}
    (hup : ∀ n, positions.get? channel = some n → n ≤ sequence) :
    ¬ Lost d positions (positions.set channel sequence) := by
  rintro ⟨n, hn, hlow⟩
  by_cases hd : d = channel
  · subst hd
    exact absurd (hlow sequence (by rw [Dict.get?_set, if_pos rfl])) (not_lt.mpr (hup n hn))
  · exact lt_irrefl n (hlow n (by rw [Dict.get?_set, if_neg hd, hn]))

theorem lost_forget_iff {positions : Dict Channel Int} :
    Lost d positions (forget a positions) ↔ forgets d a = true ∧ positions.get? d ≠ none := by
  unfold Lost
  rw [forget_get?]
  cases forgets d a with
  | false => exact iff_of_false (not_lost_self positions) (fun h => Bool.noConfusion h.1)
  | true =>
    rw [Option.ne_none_iff_exists']
    constructor
    · rintro ⟨n, hn, -⟩
      exact ⟨rfl, n, hn⟩
    · rintro ⟨-, n, hn⟩
      exact ⟨n, hn, fun n' h => nomatch h⟩

theorem not_lost_ackedAfter (channel : Channel) (sequence : Int) (c : RelayClient) :
    ¬ Lost d c.lastAck (c.ackedAfter channel sequence) := by
  unfold RelayClient.ackedAfter
  split
  · exact not_lost_self _
  · rename_i habove
    refine not_lost_set ?_
    intro n hn
    have hacked : c.acked channel = n := by
      rw [RelayClient.acked, Dict.getD, hn]
      rfl
    omega

theorem not_lost_sightedAfter (m : MessageFrame) (c : RelayClient) :
    ¬ Lost d c.lastSeen (c.sightedAfter m) := by
  unfold RelayClient.sightedAfter
  split
  · rename_i hnone
    exact not_lost_set (fun n hn => nomatch hnone.symm.trans hn)
  · rename_i previous hsome
    split
    · rename_i hlt
      refine not_lost_set ?_
      intro n hn
      rw [hsome] at hn
      cases hn
      exact le_of_lt hlt
    · exact not_lost_self _

/-- A step that acknowledges or takes in a message forgets nothing. -/
theorem forgets_of_ackCall {call : Channel × Int} (h : s.ackCall opts a = some call) :
    forgets d a = false := by
  cases a with
  | unsubscribe channel => nomatch h
  | frame f =>
    cases f with
    | error code message => nomatch h
    | _ => rfl
  | _ => rfl

theorem forgets_of_fresh {m : MessageFrame} (h : s.fresh? a = some m) : forgets d a = false := by
  obtain ⟨rfl, -⟩ := fresh?_eq_some {} h
  rfl

/-- The step removes or lowers a position of the channel. -/
def GivesUp (opts : ClientOptions) (s : LiveClient) (a : ClientAct) (d : Channel) : Prop :=
  Lost d s.client.lastAck (s.step opts a).client.lastAck ∨
    Lost d s.client.lastSeen (s.step opts a).client.lastSeen

/-- The channel has a position. -/
def Positioned (s : LiveClient) (d : Channel) : Prop :=
  s.client.lastAck.get? d ≠ none ∨ s.client.lastSeen.get? d ≠ none

/-- **What a step gives up**: the positions it forgets, and no other. -/
theorem givesUp_iff (opts : ClientOptions) (s : LiveClient) (a : ClientAct) (d : Channel) :
    GivesUp opts s a d ↔ forgets d a = true ∧ Positioned s d := by
  have hack : Lost d s.client.lastAck (s.step opts a).client.lastAck ↔
      forgets d a = true ∧ s.client.lastAck.get? d ≠ none := by
    rw [(stepped opts s a).lastAck]
    cases hcall : s.ackCall opts a with
    | none => exact lost_forget_iff
    | some call =>
      refine iff_of_false (not_lost_ackedAfter call.1 call.2 s.client) ?_
      rw [forgets_of_ackCall hcall]
      exact fun h => Bool.noConfusion h.1
  have hseen : Lost d s.client.lastSeen (s.step opts a).client.lastSeen ↔
      forgets d a = true ∧ s.client.lastSeen.get? d ≠ none := by
    rw [(stepped opts s a).lastSeen]
    cases hfresh : s.fresh? a with
    | none => exact lost_forget_iff
    | some m =>
      refine iff_of_false (not_lost_sightedAfter m s.client) ?_
      rw [forgets_of_fresh hfresh]
      exact fun h => Bool.noConfusion h.1
  rw [GivesUp, hack, hseen, Positioned, and_or_left]

/-! ## 2. Given up for another channel -/

/-- The step is `unsubscribe` of the channel, or an error that names the channel and ends its
resumption. -/
def Releases (a : ClientAct) (d : Channel) : Prop :=
  a = .unsubscribe d ∨ ∃ code : ErrorCode, code.endsResume = true ∧ a = .frame (.error code d)

/-- No channel's position is given up except for that channel. -/
def KeepsOthers (opts : ClientOptions) (s : LiveClient) (a : ClientAct) : Prop :=
  ∀ d, GivesUp opts s a d → Releases a d

/-- At an error that ends a resumption, the channel it names is the only one with a position. -/
def NamesOnly (s : LiveClient) : ClientAct → Prop
  | .frame (.error code message) => code.endsResume = true → ∀ d, Positioned s d → d = message
  | _ => True

theorem keepsOthers_iff (opts : ClientOptions) (s : LiveClient) (a : ClientAct) :
    KeepsOthers opts s a ↔ NamesOnly s a := by
  unfold KeepsOthers
  simp only [givesUp_iff]
  constructor
  · intro h
    unfold NamesOnly
    split
    · rename_i code message
      intro hends d hd
      rcases h d ⟨hends, hd⟩ with heq | ⟨code', -, heq⟩
      · nomatch heq
      · injection heq with heq
        injection heq with _ heq
        exact heq.symm
    · trivial
  · rintro h d ⟨hforgets, hd⟩
    unfold forgets at hforgets
    split at hforgets
    · rename_i channel
      exact Or.inl (by rw [of_decide_eq_true hforgets])
    · rename_i code message
      obtain rfl : d = message := h hforgets d hd
      exact Or.inr ⟨code, hforgets, rfl⟩
    · nomatch hforgets

/-- **When resume points are given up only for their own channel.**  In every run of a client, over
frames, calls of the application, handlers that complete late and reconnects: each step removes or
lowers a position only if it unsubscribes that channel or is the error for that channel, if and only
if at each RESUME_GAP or RESUME_WINDOW_EXPIRED no channel but the one that is named has a
position. -/
theorem resume_points_kept_iff (opts : ClientOptions) (acts : List ClientAct) :
    Along (step opts) (KeepsOthers opts) {} acts ↔ Along (step opts) NamesOnly {} acts :=
  @along_congr _ _ (step opts) _ _ (fun _ => True) (fun s a _ => keepsOthers_iff opts s a)
    (fun _ _ _ _ => trivial) acts {} trivial

section Samples

/-- CONNECTED, always with the same session. -/
def sampleConnected : ClientAct := .frame (.connected "x" "s" "n" 15)

/-- A MESSAGE. -/
def sampleMessage (channel : Channel) (messageId : String) (sequence : Int) : ClientAct :=
  .frame (.message ⟨messageId, channel, sequence, 0, .null⟩)

/-- The socket closes and a new one opens. -/
def sampleReconnect : List ClientAct := [.closed, .connect, .opened true, sampleConnected]

/-- Two channels with a message each, and a reconnect. -/
def sampleTwoChannels : List ClientAct :=
  [.connect, .opened true, sampleConnected, .subscribe "a" none, .subscribe "b" none,
    sampleMessage "a" "m1" 1, sampleMessage "b" "m2" 1] ++ sampleReconnect

end Samples

/-- **A gap on one of two channels.**  RESUME has named both, the server reports a gap on `a`, and
the position of `b` is gone too: the next reconnect asks for no replay. -/
theorem gap_clears_other_channels :
    let resumed := runAll (step {}) {} sampleTwoChannels
    let reported := resumed.step {} (.frame (.error .resumeGap "a"))
    let offline := runAll (step {}) reported [.closed, .connect, .opened true]
    .resume "s" [("a", 1), ("b", 1)] ∈ resumed.client.sent ∧
    (resumed.client.lastAck.get? "b", resumed.client.lastSeen.get? "b") = (some 1, some 1) ∧
    (reported.client.lastAck.get? "b", reported.client.lastSeen.get? "b") = (none, none) ∧
    offline.newFrames {} sampleConnected = [.subscribe "a", .subscribe "b"] ∧
    ¬ Along (step {}) (KeepsOthers {}) {}
      (sampleTwoChannels ++ [.frame (.error .resumeGap "a")]) := by
  refine ⟨by decide +kernel, by decide +kernel, by decide +kernel, by decide +kernel, ?_⟩
  intro h
  have hkeep : KeepsOthers {} (runAll (step {}) {} sampleTwoChannels)
      (.frame (.error .resumeGap "a")) := (along_append.mp h).2.1
  have hlost : GivesUp {} (runAll (step {}) {} sampleTwoChannels)
      (.frame (.error .resumeGap "a")) "b" :=
    (givesUp_iff _ _ _ _).mpr ⟨rfl, Or.inl (by decide +kernel)⟩
  rcases hkeep "b" hlost with heq | ⟨code, -, heq⟩
  · nomatch heq
  · injection heq with heq
    injection heq with _ heq
    exact absurd heq (by decide)

/-! ## 3. Written after `unsubscribe` -/

/-- The keys of `lastAck` are subscribed. -/
def Attached (c : RelayClient) : Prop := ∀ d, c.lastAck.get? d ≠ none → d ∈ c.subscriptions

/-- The keys of `lastAck` are subscribed after the step, and a RESUME that it sends names subscribed
channels only. -/
def Unrevived (opts : ClientOptions) (s : LiveClient) (a : ClientAct) : Prop :=
  Attached (s.step opts a).client ∧
  ∀ sessionId positions, .resume sessionId positions ∈ s.newFrames opts a →
    ∀ p ∈ positions, p.1 ∈ (s.step opts a).client.subscriptions

/-- A message that the step acknowledges is one of a subscribed channel, or not above the position
there. -/
def AcksSubscribed (opts : ClientOptions) (s : LiveClient) (a : ClientAct) : Prop :=
  ∀ channel sequence, s.ackCall opts a = some (channel, sequence) →
    channel ∈ s.client.subscriptions ∨ sequence ≤ s.client.acked channel

/-- What a step keeps of the positions is subscribed after it. -/
theorem Attached.forget (h : Attached s.client) (hd : (forget a s.client.lastAck).get? d ≠ none) :
    d ∈ s.subscriptionsAfter a := by
  rw [forget_get?] at hd
  split at hd
  · exact absurd rfl hd
  · rename_i hkept
    have hold : d ∈ s.client.subscriptions := h d hd
    unfold subscriptionsAfter
    split
    · exact OSet.mem_add.mpr (Or.inr hold)
    · rename_i channel
      refine OSet.mem_discard.mpr ⟨?_, hold⟩
      intro heq
      exact hkept (decide_eq_true heq.symm)
    · exact hold

/-- Acknowledging does not change the subscriptions. -/
theorem subscriptionsAfter_of_ackCall {call : Channel × Int} (h : s.ackCall opts a = some call) :
    s.subscriptionsAfter a = s.client.subscriptions := by
  cases a with
  | subscribe channel handler => nomatch h
  | unsubscribe channel => nomatch h
  | _ => rfl

/-- The keys after a step that acknowledges. -/
theorem attached_step_iff (h : Attached s.client) :
    Attached (s.step opts a).client ↔ AcksSubscribed opts s a := by
  have hstep := stepped opts s a
  unfold Attached AcksSubscribed
  rw [hstep.lastAck, hstep.subscriptions]
  cases hcall : s.ackCall opts a with
  | none => exact iff_of_true (fun d hd => h.forget hd) (fun _ _ hno => nomatch hno)
  | some call =>
    obtain ⟨channel, sequence⟩ := call
    rw [subscriptionsAfter_of_ackCall hcall]
    simp only [RelayClient.ackedAfter]
    constructor
    · intro hkeys channel' sequence' heq
      cases heq
      by_cases hold : sequence ≤ s.client.acked channel
      · exact Or.inr hold
      · refine Or.inl (hkeys channel ?_)
        rw [if_neg hold, Dict.get?_set, if_pos rfl]
        exact Option.some_ne_none _
    · intro hacks d hd
      rcases hacks channel sequence rfl with hsub | hold
      · split at hd
        · exact h d hd
        · rw [Dict.get?_set] at hd
          split at hd
          · rename_i heq
            exact heq ▸ hsub
          · exact h d hd
      · rw [if_pos hold] at hd
        exact h d hd

/-- A RESUME names the keys of `lastAck`. -/
theorem resume_names_attached (h : Attached s.client) {sessionId : String}
    {positions : List (Channel × Int)} (hmem : .resume sessionId positions ∈ s.newFrames opts a) :
    ∀ p ∈ positions, p.1 ∈ (s.step opts a).client.subscriptions := by
  obtain ⟨frames, heq, hresume⟩ := (stepped opts s a).sent
  rw [newFrames, heq, List.drop_left] at hmem
  obtain ⟨rfl, -, -, hsub⟩ := hresume sessionId positions hmem
  intro p hp
  rw [(stepped opts s a).subscriptions, hsub]
  refine h p.1 ?_
  rw [(Dict.mem_entries s.client.lastAck p.1 p.2).mp hp]
  exact Option.some_ne_none _

theorem unrevived_iff (h : Attached s.client) : Unrevived opts s a ↔ AcksSubscribed opts s a := by
  rw [← attached_step_iff h]
  exact ⟨And.left, fun hnext => ⟨hnext, fun _ _ hmem => resume_names_attached h hmem⟩⟩

/-- **When a reconnect revives no channel.**  In every run of a client: after each step the keys of
`lastAck` are subscribed and each RESUME names subscribed channels only, if and only if every
message that is acknowledged (at its arrival if it is a duplicate or has no handlers, else after its
last handler) is of a channel that is subscribed then, or not above the position there. -/
theorem resume_names_subscribed_iff (opts : ClientOptions) (acts : List ClientAct) :
    Along (step opts) (Unrevived opts) {} acts ↔ Along (step opts) (AcksSubscribed opts) {} acts := by
  have hnew : Attached ({} : LiveClient).client := fun d hd => absurd (Dict.get?_empty d) hd
  have hiff : ∀ (s : LiveClient) (a : ClientAct), Attached s.client →
      (Unrevived opts s a ↔ AcksSubscribed opts s a) := fun _ _ h => unrevived_iff h
  exact along_congr hiff (fun _ _ _ hok => hok.1) acts {} hnew

/-- A channel that is left while a message is on its way. -/
def sampleInFlight : List ClientAct :=
  [.connect, .opened true, sampleConnected, .subscribe "c" none, .unsubscribe "c",
    sampleMessage "c" "m1" 1, .closed, .connect, .opened true]

/-- **One message in flight during `unsubscribe`** is acknowledged, and after the reconnect RESUME
names the channel that was left. -/
theorem resume_revives_channel :
    let s := runAll (step {}) {} sampleInFlight
    s.newFrames {} sampleConnected = [.resume "s" [("c", 1)]] ∧
    "c" ∉ (s.step {} sampleConnected).client.subscriptions ∧
    ¬ Along (step {}) (Unrevived {}) {} (sampleInFlight ++ [sampleConnected]) := by
  have hframes : (runAll (step {}) {} sampleInFlight).newFrames {} sampleConnected =
      [.resume "s" [("c", 1)]] := by decide +kernel
  have hleft : "c" ∉ ((runAll (step {}) {} sampleInFlight).step {}
      sampleConnected).client.subscriptions := by decide +kernel
  refine ⟨hframes, hleft, ?_⟩
  intro h
  have hstep : Unrevived {} (runAll (step {}) {} sampleInFlight) sampleConnected :=
    (along_append.mp h).2.1
  refine hleft (hstep.2 "s" [("c", 1)] ?_ ("c", 1) (List.mem_singleton_self _))
  rw [hframes]
  exact List.mem_singleton_self _

end LiveClient

end Relay
