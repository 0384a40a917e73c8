/-
# All subscribers agree on the order of a channel

Whatever order the PUBLISHes of a channel get at Redis, it is the order for everybody.  What a
connection's sender writes of the channel is a subsequence of it (`Ordered`), on every process and
through every restart of the process's listener; and no message is in it twice, since each carries
the number its publisher drew (`Drawn`).  So two connections cannot disagree about two messages
that both of them get.
-/
import Mathlib
import Relay.Ordering
import Relay.Lib.Ticket

namespace Relay

open Gateway Redis

/-! ## 1. No message is published twice -/

/-- The number a call holds on a channel between its INCR and its PUBLISH. -/
def unannounced (channel : Channel) (c : PublishCall × Stage) : List Int :=
  match c.2 with
  | .numbered n | .stored n | .trimmed n => if c.1.channel = channel then [n] else []
  | _ => []

/-- The numbers of a channel: those on its topic, then those still to come. -/
def topicNumbers (channel : Channel) (r : Redis) (calls : List (PublishCall × Stage)) : List Int :=
  (r.published channel).map MessageFrame.sequence ++ calls.flatMap (unannounced channel)

/-- Every number was drawn, and none is on its way twice. -/
def TopicDrawn (channel : Channel) (r : Redis) (calls : List (PublishCall × Stage)) : Prop :=
  Drawn (r.sequence channel) (topicNumbers channel r calls)

theorem topicNumbers_split (channel : Channel) (r : Redis)
    (before after : List (PublishCall × Stage)) (c : PublishCall × Stage) :
    topicNumbers channel r (before ++ c :: after) = (r.published channel).map MessageFrame.sequence ++
      (before.flatMap (unannounced channel) ++
        (unannounced channel c ++ after.flatMap (unannounced channel))) := by
  simp [topicNumbers]

/-- A command of a publisher that is not its INCR or its PUBLISH leaves the numbers where they
are. -/
theorem topicDrawn_fire (env : Env) {channel : Channel} {r : Redis}
    {before after : List (PublishCall × Stage)} {call : PublishCall} {st : Stage} (hr : st.Running)
    (h : TopicDrawn channel r (before ++ (call, st) :: after)) :
    TopicDrawn channel (Stage.fire env call r st).1
      (before ++ (call, (Stage.fire env call r st).2) :: after) := by
  unfold TopicDrawn at h ⊢
  rw [topicNumbers_split] at h ⊢
  cases st with
  | start =>
    by_cases hch : call.channel = channel
    · -- INCR: the number is new
      subst hch
      simp only [Stage.fire, incr, Function.update_self, unannounced, if_true,
        List.nil_append] at h ⊢
      refine h.draw ?_
      simp only [List.singleton_append, ← List.append_assoc]
      exact List.perm_middle
    · have hne : channel ≠ call.channel := fun hh => hch hh.symm
      simp only [Stage.fire, incr, Function.update_of_ne hne, unannounced, if_neg hch] at h ⊢
      exact h
  | numbered n => exact h
  | stored n =>
    simp only [Stage.fire, xtrim]
    split <;> exact h
  | trimmed n =>
    by_cases hch : call.channel = channel
    · -- PUBLISH: the number goes from the call to the topic
      subst hch
      simp only [Stage.fire, publish, Stage.envelope, Function.update_self, unannounced, if_true,
        List.map_append, List.map_cons, List.map_nil, List.nil_append, List.append_assoc] at h ⊢
      refine h.subperm (List.Perm.subperm (List.Perm.append_left _ ?_))
      simp only [List.singleton_append]
      exact List.perm_middle.symm
    · have hne : channel ≠ call.channel := fun hh => hch hh.symm
      simp only [Stage.fire, publish, Function.update_of_ne hne, unannounced, if_neg hch] at h ⊢
      exact h
  | done n => exact absurd hr id
  | failed => exact absurd hr id

theorem topicDrawn_publisher (env : Env) {channel : Channel} {p : Publishers} (i : Nat)
    (h : TopicDrawn channel p.redis p.calls) :
    TopicDrawn channel (p.step env i).redis (p.step env i).calls := by
  rcases Publishers.step_cases env p i with heq | ⟨before, call, st, after, hc, -, hr, hcase⟩
  · rw [heq]; exact h
  rw [hc] at h
  rcases hcase with ⟨rest, -, heq⟩ | ⟨fs, -, heq⟩
  · -- a call that fails drops the number it holds, if any
    rw [heq]
    unfold TopicDrawn at h ⊢
    rw [topicNumbers_split] at h ⊢
    refine h.subperm (List.Sublist.subperm (List.Sublist.append (List.Sublist.refl _) ?_))
    exact List.Sublist.append (List.Sublist.refl _)
      (List.Sublist.append (List.nil_sublist _) (List.Sublist.refl _))
  · rw [heq]
    have hfs : TopicDrawn channel { p.redis with faults := fs } (before ++ (call, st) :: after) := h
    exact topicDrawn_fire env hr hfs

theorem topicDrawn_step {env : Env} {channel : Channel} {w : World} (ht : w.Tame env)
    (h : TopicDrawn channel w.redis w.publishers) (a : WorldAct) :
    TopicDrawn channel (w.step env a).redis (w.step env a).publishers := by
  by_cases ha : ∃ i, a = .publisher i
  · obtain ⟨i, rfl⟩ := ha
    exact topicDrawn_publisher env i h
  · obtain ⟨hseq, -, -, hpub, hcalls⟩ := ht.step_channels a (fun i hi => ha ⟨i, hi⟩)
    unfold TopicDrawn topicNumbers at h ⊢
    rw [hseq, hpub]
    rcases hcalls with hcalls | ⟨call, -, hcalls⟩
    · rw [hcalls]; exact h
    · -- a new call holds no number
      rw [hcalls, List.flatMap_append]
      simpa [unannounced] using h

/-- The messages on a topic carry distinct numbers, in every reachable state. -/
theorem topic_nodup (env : Env) (faults : List Bool) (trims : List Nat)
    (socketFaults : NodeId → List Bool) (acts : List WorldAct) (channel : Channel) :
    (((runAll (World.step env) (World.start faults trims socketFaults) acts).redis.published
      channel).map MessageFrame.sequence).Nodup := by
  have hinv := @runAll_invariant' _ _ (World.step env)
    (fun w => w.Tame env ∧ TopicDrawn channel w.redis w.publishers)
    (fun w a hw => ⟨hw.1.step a, topicDrawn_step hw.1 hw.2 a⟩) acts
    (World.start faults trims socketFaults) ⟨tame_run env faults trims socketFaults [], Drawn.nil⟩
  exact hinv.2.nodup.sublist (List.sublist_append_left _ _)

/-! ## 2. Two subsequences of one order -/

/-- `a` comes before `b` in the list. -/
def Before {α : Type} (l : List α) (a b : α) : Prop := [a, b].Sublist l

/-- Two members of a list come in one order or the other. -/
theorem before_or_before {α : Type} : ∀ {l : List α} {a b : α}, a ∈ l → b ∈ l → a ≠ b →
    Before l a b ∨ Before l b a
  | x :: l, a, b, ha, hb, hne => by
    rcases List.mem_cons.mp ha with rfl | hal <;> rcases List.mem_cons.mp hb with rfl | hbl
    · exact absurd rfl hne
    · exact Or.inl (List.Sublist.cons_cons a (List.singleton_sublist.mpr hbl))
    · exact Or.inr (List.Sublist.cons_cons b (List.singleton_sublist.mpr hal))
    · exact (before_or_before hal hbl hne).imp (List.Sublist.cons x) (List.Sublist.cons x)

theorem before_asymm {α : Type} : ∀ {l : List α} {a b : α}, l.Nodup → Before l a b → ¬ Before l b a
  | [], _, _, _, h, _ => nomatch h
  | x :: l, a, b, hnd, hab, hba => by
    obtain ⟨hx, hnd⟩ := List.nodup_cons.mp hnd
    -- whoever is at the head cannot come after the other one
    have hlast : ∀ {p q : α}, Before (x :: l) p q → q ∈ l := by
      intro p q h
      cases h with
      | cons _ h => exact h.subset (by simp)
      | cons_cons _ h => exact h.subset (by simp)
    have hb := hlast hab
    have ha := hlast hba
    have htail : ∀ {p q : α}, p ∈ l → Before (x :: l) p q → Before l p q := by
      intro p q hp h
      cases h with
      | cons _ h => exact h
      | cons_cons _ h => exact absurd hp hx
    exact before_asymm hnd (htail ha hab) (htail hb hba)

/-- Two subsequences of a list without repetition order their common members alike. -/
theorem before_iff_of_sublist {α : Type} {l l₁ l₂ : List α} (hnd : l.Nodup) (h₁ : l₁.Sublist l)
    (h₂ : l₂.Sublist l) {a b : α} (ha : a ∈ l₂) (hb : b ∈ l₂) (h : Before l₁ a b) :
    Before l₂ a b := by
  have hne : a ≠ b := by
    rintro rfl
    exact absurd ((hnd.sublist h₁).sublist h) (by simp)
  refine (before_or_before ha hb hne).resolve_right (fun hba => ?_)
  exact before_asymm hnd (h.trans h₁) (hba.trans h₂)

/-! ## 3. Agreement -/

/-- A connection that never sends RESUME writes a subsequence of the topic. -/
theorem wire_follows_topic (env : Env) (faults : List Bool) (trims : List Nat)
    (socketFaults : NodeId → List Bool) (acts : List WorldAct) {n : NodeId} {x : ConnId}
    (c : Channel) (hres : ∀ a ∈ acts, a.NoResume n x) {conn : Connection}
    (hx : ((runAll (World.step env) (World.start faults trims socketFaults) acts).nodes n
      ).registry.byId.get? x = some conn) :
    (messagesOn c conn.wire).Sublist
      ((runAll (World.step env) (World.start faults trims socketFaults) acts).redis.published c) := by
  have hacts : Along (World.step env) (fun w a => a.AllowedBy (fun m y => decide (¬ (m = n ∧ y = x)))
      (fun _ _ _ => True) w) (World.start faults trims socketFaults) acts := by
    have hquiet : Along (World.step env) (fun _ a => a.NoResume n x)
        (World.start faults trims socketFaults) acts := along_of_forall acts hres
    exact hquiet.mono (fun w a ha => ha.allowedBy (fun _ _ _ _ _ _ => trivial))
  have hordered := ((ordered_kept env n x c (fun _ _ _ => True)).run (fun _ _ _ _ h => h) faults
    trims socketFaults (fun m _ => ⟨[], rfl, List.Sublist.refl _⟩) acts hacts n).2 rfl
  exact hordered.wire hx

/-- **All subscribers on all nodes agree on order.**  For any two connections that never send
RESUME, on any nodes and in any run, the messages of a channel each of them has been sent are a
subsequence of the PUBLISHes on the channel, in which nothing is repeated; and any two messages both
have been sent arrived in the same order on both. -/
theorem subscribers_agree (env : Env) (faults : List Bool) (trims : List Nat)
    (socketFaults : NodeId → List Bool) (acts : List WorldAct) (c : Channel) (n₁ n₂ : NodeId)
    (x₁ x₂ : ConnId) (hres₁ : ∀ a ∈ acts, a.NoResume n₁ x₁) (hres₂ : ∀ a ∈ acts, a.NoResume n₂ x₂)
    (conn₁ conn₂ : Connection)
    (hx₁ : ((runAll (World.step env) (World.start faults trims socketFaults) acts).nodes n₁
      ).registry.byId.get? x₁ = some conn₁)
    (hx₂ : ((runAll (World.step env) (World.start faults trims socketFaults) acts).nodes n₂
      ).registry.byId.get? x₂ = some conn₂) :
    let topic := (runAll (World.step env) (World.start faults trims socketFaults)
      acts).redis.published c
    topic.Nodup ∧ (messagesOn c conn₁.wire).Sublist topic ∧ (messagesOn c conn₂.wire).Sublist topic ∧
      (messagesOn c conn₁.wire).Nodup ∧ (messagesOn c conn₂.wire).Nodup ∧
      ∀ a b, a ∈ messagesOn c conn₁.wire → b ∈ messagesOn c conn₁.wire →
        a ∈ messagesOn c conn₂.wire → b ∈ messagesOn c conn₂.wire →
        (Before (messagesOn c conn₁.wire) a b ↔ Before (messagesOn c conn₂.wire) a b) := by
  intro topic
  have hnd : topic.Nodup := (topic_nodup env faults trims socketFaults acts c).of_map _
  have h₁ := wire_follows_topic env faults trims socketFaults acts c hres₁ hx₁
  have h₂ := wire_follows_topic env faults trims socketFaults acts c hres₂ hx₂
  refine ⟨hnd, h₁, h₂, hnd.sublist h₁, hnd.sublist h₂, fun a b ha₁ hb₁ ha₂ hb₂ => ?_⟩
  exact ⟨before_iff_of_sublist hnd h₁ h₂ ha₂ hb₂, before_iff_of_sublist hnd h₂ h₁ ha₁ hb₁⟩

/-! ## 4. Two nodes -/

/-- A connection `x` on node `n`, served by task `i`, subscribes to a channel, and the node's
listener attaches. -/
def subscribesOn (n : NodeId) (x : ConnId) (i : Nat) : List WorldAct :=
  .accept n ⟨x, "s", some (ClientFrame.connect "token" none).toJson, .ok "a"⟩
      [.json (ClientFrame.subscribe "t-a:c").toJson] ::
    List.replicate 14 (.task i) ++ [.listener n "t-a:c" .attach]

/-- A node works off two messages for a connection. -/
def receivesTwo (n : NodeId) (x : ConnId) : List WorldAct :=
  [.listener n "t-a:c" .receive, .listener n "t-a:c" .receive] ++ List.replicate 4 (.sender n x)

/-- Connections on two nodes, and two publishers of which the second overtakes the first. -/
def twoNodes : List WorldAct :=
  subscribesOn "n" "x" 0 ++ subscribesOn "m" "y" 1 ++
    [.publish ⟨"t-a:c", "m1", .null⟩, .publish ⟨"t-a:c", "m2", .null⟩] ++
    [0, 1, 1, 1, 1, 0, 0, 0].map .publisher ++ receivesTwo "n" "x" ++ receivesTwo "m" "y"

/-- Both connections are sent message 2 before message 1. -/
theorem overtaken_alike : ∃ conn₁ conn₂,
    ((runAll (World.step (.plain {})) (World.start [] [] (fun _ => [])) twoNodes).nodes "n"
      ).registry.byId.get? "x" = some conn₁ ∧
    ((runAll (World.step (.plain {})) (World.start [] [] (fun _ => [])) twoNodes).nodes "m"
      ).registry.byId.get? "y" = some conn₂ ∧
    (messagesOn "t-a:c" conn₁.wire).map MessageFrame.sequence = [2, 1] ∧
    (messagesOn "t-a:c" conn₂.wire).map MessageFrame.sequence = [2, 1] ∧
    ∀ a b, a ∈ messagesOn "t-a:c" conn₁.wire → b ∈ messagesOn "t-a:c" conn₁.wire →
      a ∈ messagesOn "t-a:c" conn₂.wire → b ∈ messagesOn "t-a:c" conn₂.wire →
      (Before (messagesOn "t-a:c" conn₁.wire) a b ↔ Before (messagesOn "t-a:c" conn₂.wire) a b) := by
  have h₁ : ∃ conn ∈ ((runAll (World.step (.plain {})) (World.start [] [] (fun _ => [])) twoNodes
      ).nodes "n").registry.byId.get? "x",
      (messagesOn "t-a:c" conn.wire).map MessageFrame.sequence = [2, 1] := by decide +kernel
  have h₂ : ∃ conn ∈ ((runAll (World.step (.plain {})) (World.start [] [] (fun _ => [])) twoNodes
      ).nodes "m").registry.byId.get? "y",
      (messagesOn "t-a:c" conn.wire).map MessageFrame.sequence = [2, 1] := by decide +kernel
  obtain ⟨conn₁, hx₁, hw₁⟩ := h₁
  obtain ⟨conn₂, hx₂, hw₂⟩ := h₂
  exact ⟨conn₁, conn₂, hx₁, hx₂, hw₁, hw₂, (subscribers_agree (.plain {}) [] [] (fun _ => []) twoNodes
    "t-a:c" "n" "m" "x" "y" (by decide +kernel) (by decide +kernel) conn₁ conn₂ hx₁ hx₂).2.2.2.2.2⟩

end Relay
