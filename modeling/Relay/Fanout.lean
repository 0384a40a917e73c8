/-
# Fanout: listener tasks, their Redis subscriptions and local delivery

The receiving side of a channel on one process.  A listener task of the manager holds a Redis
subscription exactly while it is in `pubsub.listen()`; the subscription is for its own channel and
nobody else's (`Wired`).  That is what makes the backlog of a channel -- what Redis has sent to the
process's listener and the listener has not processed -- a well-defined queue: a PUBLISH appends to
it, a resumption of the listener takes from its front, and nothing else touches it but by throwing
it away.

`get_deliverLocal` is `deliver_local` as an equation: every local subscriber gets the message once.
-/
import Mathlib
import Relay.World
import Relay.Lib.Run

namespace Relay

open Gateway Redis

/-! ## 1. The subscriptions a task holds -/

/-- The Redis subscriptions of a listener task of the process. -/
def ownedBy (env : Env) (r : Redis) (task : Nat) : List Subscriber :=
  r.subscribers.filter (fun s => decide (Owns env task s))

theorem pendingOf_eq (env : Env) (task : Nat) (r : Redis) :
    pendingOf env task r = (ownedBy env r task).flatMap Subscriber.pending := rfl

section Owned

variable {env other : Env} {g : Gateway} {task t : Nat}

theorem owns_inj {s : Subscriber} (h : Owns env task s) (k : Owns env t s) : task = t :=
  h.2.symm.trans k.2

theorem owns_foreign {s : Subscriber} (hne : other.settings.nodeId ≠ env.settings.nodeId)
    (h : Owns other task s) : ¬ Owns env t s := fun k => hne (h.1.symm.trans k.1)

theorem ownedBy_addSubscriber (channel : Channel) :
    ownedBy env (addSubscriber env channel task g).redis t = ownedBy env g.redis t ++
      if t = task then [⟨env.settings.nodeId, task, channel, []⟩] else [] := by
  simp only [ownedBy, addSubscriber, setRedis, List.filter_append]
  congr 1
  split
  · rename_i h
    simp [Owns, h]
  · rename_i h
    simp [Owns, Ne.symm h]

theorem ownedBy_dropSubscriber :
    ownedBy env (dropSubscriber env task g).redis t
      = if t = task then [] else ownedBy env g.redis t := by
  simp only [ownedBy, dropSubscriber, setRedis, List.filter_filter]
  split
  · rename_i h
    subst h
    simp
  · rename_i h
    refine List.filter_congr (fun s _ => ?_)
    by_cases ht : Owns env t s
    · simp [ht, show ¬ Owns env task s from fun k => h (owns_inj ht k)]
    · simp [ht]

/-- Processing a message takes it off the subscription. -/
theorem ownedBy_map (env : Env) (t : Nat) {f : Subscriber → Subscriber}
    (hf : ∀ s, Owns env t (f s) ↔ Owns env t s) (subs : List Subscriber) :
    (subs.map f).filter (fun s => decide (Owns env t s))
      = (subs.filter (fun s => decide (Owns env t s))).map f := by
  rw [List.filter_map]
  congr 1
  refine List.filter_congr (fun s _ => ?_)
  simp [hf]

theorem ownedBy_popPending :
    ownedBy env (popPending env task g).redis t = if t = task then
      (ownedBy env g.redis t).map (fun s => { s with pending := s.pending.tail })
      else ownedBy env g.redis t := by
  have hmap := ownedBy_map env t (f := fun s =>
    if Owns env task s then { s with pending := s.pending.tail } else s)
    (fun s => by split <;> rfl) g.redis.subscribers
  simp only [ownedBy, popPending, setRedis]
  rw [hmap]
  split
  · rename_i h
    subst h
    refine List.map_congr_left (fun s hs => ?_)
    rw [if_pos (by simpa using (List.mem_filter.mp hs).2)]
  · rename_i h
    conv_rhs => rw [← List.map_id (g.redis.subscribers.filter _)]
    refine List.map_congr_left (fun s hs => ?_)
    have ht : Owns env t s := by simpa using (List.mem_filter.mp hs).2
    rw [if_neg (fun k => h (owns_inj ht k)), id]

/-- What Redis does to a subscription on PUBLISH. -/
def Subscriber.receive (channel : Channel) (m : MessageFrame) (s : Subscriber) : Subscriber :=
  if s.channel = channel then { s with pending := s.pending ++ [m] } else s

theorem ownedBy_publish (channel : Channel) (frame : Redis → MessageFrame) (r : Redis) :
    ownedBy env (publish channel frame r).2 t
      = (ownedBy env r t).map (Subscriber.receive channel (frame r)) :=
  ownedBy_map env t (fun s => by split <;> rfl) r.subscribers

theorem ownedBy_addSubscriber_foreign (hne : other.settings.nodeId ≠ env.settings.nodeId)
    (channel : Channel) :
    ownedBy env (addSubscriber other channel task g).redis t = ownedBy env g.redis t := by
  simp only [ownedBy, addSubscriber, setRedis, List.filter_append]
  have hnot : ¬ Owns env t ⟨other.settings.nodeId, task, channel, []⟩ := fun k => hne k.1
  simp [hnot]

theorem ownedBy_dropSubscriber_foreign (hne : other.settings.nodeId ≠ env.settings.nodeId) :
    ownedBy env (dropSubscriber other task g).redis t = ownedBy env g.redis t := by
  simp only [ownedBy, dropSubscriber, setRedis, List.filter_filter]
  refine List.filter_congr (fun s _ => ?_)
  by_cases ht : Owns env t s
  · simp [ht, show ¬ Owns other task s from fun k => owns_foreign hne k ht]
  · simp [ht]

theorem ownedBy_popPending_foreign (hne : other.settings.nodeId ≠ env.settings.nodeId) :
    ownedBy env (popPending other task g).redis t = ownedBy env g.redis t := by
  simp only [ownedBy, popPending, setRedis]
  rw [ownedBy_map env t (fun s => by split <;> rfl)]
  conv_rhs => rw [← List.map_id (g.redis.subscribers.filter _)]
  refine List.map_congr_left (fun s hs => ?_)
  have ht : Owns env t s := by simpa using (List.mem_filter.mp hs).2
  rw [if_neg (fun k => owns_foreign hne k ht), id]

/-- What the listener of another process does with Redis is not noticed here. -/
theorem ownedBy_listenerStep_foreign (hne : other.settings.nodeId ≠ env.settings.nodeId)
    (channel : Channel) (a : ListenerAct) (t : Nat) :
    ownedBy env (listenerStep other channel a g).redis t = ownedBy env g.redis t := by
  rcases listenerStep_cases other channel a g with heq | ⟨l, -, -, -, hcase⟩
  · rw [heq]
  rcases hcase with ⟨-, -, heq⟩ | ⟨-, -, m, rest, -, heq⟩ | ⟨-, -, heq⟩ | ⟨-, -, heq⟩ | ⟨-, -, heq⟩
  · rw [heq]; exact ownedBy_addSubscriber_foreign hne channel
  · rw [heq]; exact ownedBy_popPending_foreign hne
  · rw [heq]; rfl
  · rw [heq]; exact ownedBy_dropSubscriber_foreign hne
  · rw [heq]; rfl

theorem ownedBy_reap_foreign (hne : other.settings.nodeId ≠ env.settings.nodeId) (t : Nat) :
    ownedBy env (reap other g).redis t = ownedBy env g.redis t := by
  unfold reap
  split
  · rfl
  · exact ownedBy_dropSubscriber_foreign hne

end Owned

theorem published_listenerStep (env : Env) (channel : Channel) (a : ListenerAct) (g : Gateway) :
    (listenerStep env channel a g).redis.published = g.redis.published := by
  rcases listenerStep_cases env channel a g with heq | ⟨l, -, -, -, hcase⟩
  · rw [heq]
  rcases hcase with ⟨-, -, heq⟩ | ⟨-, -, m, rest, -, heq⟩ | ⟨-, -, heq⟩ | ⟨-, -, heq⟩ | ⟨-, -, heq⟩ <;>
    rw [heq] <;> rfl

theorem published_reap (env : Env) (g : Gateway) :
    (reap env g).redis.published = g.redis.published := by
  unfold reap
  split <;> rfl

/-- A resumption of a listener appends nothing, reads nothing, and uses up no fault. -/
theorem listenerStep_frame (env : Env) (channel : Channel) (a : ListenerAct) (g : Gateway) :
    (listenerStep env channel a g).redis.appended = g.redis.appended ∧
      (listenerStep env channel a g).redis.ranged = g.redis.ranged ∧
      (listenerStep env channel a g).redis.faults = g.redis.faults := by
  rcases listenerStep_cases env channel a g with heq | ⟨l, -, -, -, hcase⟩
  · rw [heq]; exact ⟨rfl, rfl, rfl⟩
  rcases hcase with ⟨-, -, heq⟩ | ⟨-, -, m, rest, -, heq⟩ | ⟨-, -, heq⟩ | ⟨-, -, heq⟩ | ⟨-, -, heq⟩ <;>
    rw [heq] <;> exact ⟨rfl, rfl, rfl⟩

theorem reap_frame (env : Env) (g : Gateway) : (reap env g).redis.appended = g.redis.appended ∧
    (reap env g).redis.ranged = g.redis.ranged ∧ (reap env g).redis.faults = g.redis.faults := by
  unfold reap
  split <;> exact ⟨rfl, rfl, rfl⟩

theorem listenerStep_channels (env : Env) (channel : Channel) (a : ListenerAct) (g : Gateway) :
    (listenerStep env channel a g).redis.sequence = g.redis.sequence ∧
      (listenerStep env channel a g).redis.stream = g.redis.stream := by
  rcases listenerStep_cases env channel a g with heq | ⟨l, -, -, -, hcase⟩
  · rw [heq]; exact ⟨rfl, rfl⟩
  rcases hcase with ⟨-, -, heq⟩ | ⟨-, -, m, rest, -, heq⟩ | ⟨-, -, heq⟩ | ⟨-, -, heq⟩ | ⟨-, -, heq⟩ <;>
    rw [heq] <;> exact ⟨rfl, rfl⟩

theorem reap_channels (env : Env) (g : Gateway) :
    (reap env g).redis.sequence = g.redis.sequence ∧ (reap env g).redis.stream = g.redis.stream := by
  unfold reap
  split <;> exact ⟨rfl, rfl⟩

theorem registry_reap (env : Env) (g : Gateway) : (reap env g).node.registry = g.node.registry := by
  unfold reap
  split <;> rfl

/-! ## 2. Every listener has its own subscription -/

/-- The listener tasks of a process and the subscriptions `owned` by each task number.  Task
numbers are used once; a listener that is listening owns one subscription, for its channel; one
that is not owns none; and Redis has sent nothing to a subscription but messages of its channel. -/
structure Wired (owned : Nat → List Subscriber) (n : Node) : Prop where
  live : ∀ d l, n.listeners.get? d = some l → l.stopped = false ∧ l.cancelled = false
  used : ∀ d l, n.listeners.get? d = some l → l.task < n.nextTask
  distinct : ∀ d d' l l', n.listeners.get? d = some l → n.listeners.get? d' = some l' →
    l.task = l'.task → d = d'
  retired : ∀ p ∈ n.retired, p.2.task < n.nextTask ∧
    ∀ d l, n.listeners.get? d = some l → l.task ≠ p.2.task
  fresh : ∀ t, n.nextTask ≤ t → owned t = []
  listening : ∀ d l, n.listeners.get? d = some l → l.phase = .listening →
    ∃ s, owned l.task = [s] ∧ s.channel = d ∧ ∀ m ∈ s.pending, m.channel = d
  silent : ∀ d l, n.listeners.get? d = some l → l.phase ≠ .listening → owned l.task = []

namespace Wired

variable {owned owned' : Nat → List Subscriber} {n n' : Node}

/-- Only the listener tables matter. -/
theorem congr (h : Wired owned n) (hl : n'.listeners = n.listeners) (hr : n'.retired = n.retired)
    (ht : n'.nextTask = n.nextTask) (ho : ∀ t, owned' t = owned t) : Wired owned' n' := by
  obtain rfl : owned' = owned := funext ho
  constructor
  · rw [hl]; exact h.live
  · rw [hl, ht]; exact h.used
  · rw [hl]; exact h.distinct
  · rw [hl, hr, ht]; exact h.retired
  · rw [ht]; exact h.fresh
  · rw [hl]; exact h.listening
  · rw [hl]; exact h.silent

theorem outbound (h : Wired owned n) (ho : n.Outbound n') : Wired owned n' :=
  h.congr ho.listeners ho.retired ho.nextTask (fun _ => rfl)

/-- A new task, in place of none or of one that has returned. -/
theorem newListener (h : Wired owned n) (channel : Channel) : Wired owned (n.newListener channel) := by
  have hget : ∀ d l, (n.newListener channel).listeners.get? d = some l →
      (d = channel ∧ l = { task := n.nextTask }) ∨ n.listeners.get? d = some l := by
    intro d l hd
    simp only [Node.newListener, Dict.get?_set] at hd
    split at hd
    · rename_i hdc
      exact Or.inl ⟨hdc, (Option.some.inj hd).symm⟩
    · exact Or.inr hd
  constructor
  · intro d l hd
    rcases hget d l hd with ⟨-, rfl⟩ | hd
    · exact ⟨rfl, rfl⟩
    · exact h.live d l hd
  · intro d l hd
    rcases hget d l hd with ⟨-, rfl⟩ | hd
    · exact Nat.lt_succ_self _
    · exact Nat.lt_succ_of_lt (h.used d l hd)
  · intro d d' l l' hd hd' ht
    rcases hget d l hd with ⟨rfl, rfl⟩ | hold <;> rcases hget d' l' hd' with ⟨rfl, rfl⟩ | hold'
    · rfl
    · exact absurd ht.symm (Nat.ne_of_lt (h.used d' l' hold'))
    · exact absurd ht (Nat.ne_of_lt (h.used d l hold))
    · exact h.distinct d d' l l' hold hold' ht
  · intro p hp
    obtain ⟨h1, h2⟩ := h.retired p hp
    refine ⟨Nat.lt_succ_of_lt h1, fun d l hd => ?_⟩
    rcases hget d l hd with ⟨-, rfl⟩ | hd
    · exact Nat.ne_of_gt h1
    · exact h2 d l hd
  · intro t ht
    exact h.fresh t (Nat.le_of_succ_le ht)
  · intro d l hd hp
    rcases hget d l hd with ⟨-, rfl⟩ | hd
    · exact absurd hp (by simp)
    · exact h.listening d l hd hp
  · intro d l hd hp
    rcases hget d l hd with ⟨-, rfl⟩ | hd
    · exact h.fresh _ (Nat.le_refl _)
    · exact h.silent d l hd hp

theorem startListener (h : Wired owned n) (channel : Channel) :
    Wired owned (n.startListener channel) := by
  unfold Node.startListener
  split
  · exact h.newListener channel
  · split
    · exact h.newListener channel
    · exact h

/-- A task that is popped from the manager is nobody's any more. -/
theorem stopListener (h : Wired owned n) (channel : Channel) :
    Wired owned (n.stopListener channel) := by
  unfold Node.stopListener
  split
  · exact h
  · rename_i l hl
    have hget : ∀ d l', (n.listeners.erase channel).get? d = some l' →
        d ≠ channel ∧ n.listeners.get? d = some l' := by
      intro d l' hd
      rw [Dict.get?_erase] at hd
      split at hd
      · exact absurd hd (by simp)
      · rename_i hne
        exact ⟨hne, hd⟩
    constructor
    · exact fun d l' hd => h.live d l' (hget d l' hd).2
    · exact fun d l' hd => h.used d l' (hget d l' hd).2
    · exact fun d d' l₁ l₂ hd hd' => h.distinct d d' l₁ l₂ (hget d l₁ hd).2 (hget d' l₂ hd').2
    · intro p hp
      rcases List.mem_append.mp hp with hp | hp
      · exact ⟨(h.retired p hp).1, fun d l' hd => (h.retired p hp).2 d l' (hget d l' hd).2⟩
      · rw [List.mem_singleton.mp hp]
        refine ⟨h.used channel l hl, fun d l' hd ht => ?_⟩
        obtain ⟨hne, hd⟩ := hget d l' hd
        exact hne (h.distinct d channel l' l hd hl ht)
    · exact h.fresh
    · exact fun d l' hd => h.listening d l' (hget d l' hd).2
    · exact fun d l' hd => h.silent d l' (hget d l' hd).2

theorem countDown (h : Wired owned n) (channel : Channel) :
    Wired owned (n.countDown channel).2 := by
  unfold Node.countDown
  split
  · have hcount : Wired owned { n with
        localSubscriberCounts := n.localSubscriberCounts.erase channel } :=
      h.congr rfl rfl rfl (fun _ => rfl)
    exact hcount.stopListener channel
  · exact h.congr rfl rfl rfl (fun _ => rfl)

/-- A listener changes its phase and, with it, what it owns. -/
theorem setPhase {channel : Channel} {l : Listener} {phase : ListenerPhase} (h : Wired owned n)
    (hl : n.listeners.get? channel = some l) (hlis : n'.listeners =
      n.listeners.set channel { l with phase := phase }) (hr : n'.retired = n.retired)
    (ht : n'.nextTask = n.nextTask) (ho : ∀ t, t ≠ l.task → owned' t = owned t)
    (hon : phase = .listening → ∃ s, owned' l.task = [s] ∧ s.channel = channel ∧
      ∀ m ∈ s.pending, m.channel = channel)
    (hoff : phase ≠ .listening → owned' l.task = []) : Wired owned' n' := by
  have hget : ∀ d l', n'.listeners.get? d = some l' →
      (d = channel ∧ l' = { l with phase := phase }) ∨
        (d ≠ channel ∧ n.listeners.get? d = some l') := by
    intro d l' hd
    rw [hlis, Dict.get?_set] at hd
    split at hd
    · rename_i hdc
      exact Or.inl ⟨hdc, (Option.some.inj hd).symm⟩
    · rename_i hdc
      exact Or.inr ⟨hdc, hd⟩
  have hother : ∀ d l', d ≠ channel → n.listeners.get? d = some l' → l'.task ≠ l.task :=
    fun d l' hne hd htask => hne (h.distinct d channel l' l hd hl htask)
  constructor
  · intro d l' hd
    rcases hget d l' hd with ⟨-, rfl⟩ | ⟨-, hd⟩
    · exact h.live channel l hl
    · exact h.live d l' hd
  · intro d l' hd
    rw [ht]
    rcases hget d l' hd with ⟨-, rfl⟩ | ⟨-, hd⟩
    · exact h.used channel l hl
    · exact h.used d l' hd
  · intro d d' l₁ l₂ hd hd' htask
    rcases hget d l₁ hd with ⟨rfl, rfl⟩ | ⟨hne, hd⟩ <;>
      rcases hget d' l₂ hd' with ⟨rfl, rfl⟩ | ⟨hne', hd'⟩
    · rfl
    · exact absurd htask.symm (hother d' l₂ hne' hd')
    · exact absurd htask (hother d l₁ hne hd)
    · exact h.distinct d d' l₁ l₂ hd hd' htask
  · intro p hp
    rw [hr] at hp
    obtain ⟨h1, h2⟩ := h.retired p hp
    refine ⟨ht ▸ h1, fun d l' hd => ?_⟩
    rcases hget d l' hd with ⟨-, rfl⟩ | ⟨-, hd⟩
    · exact h2 channel l hl
    · exact h2 d l' hd
  · intro t hle
    rw [ht] at hle
    rw [ho t (fun heq => absurd (h.used channel l hl) (by omega))]
    exact h.fresh t hle
  · intro d l' hd hp
    rcases hget d l' hd with ⟨rfl, rfl⟩ | ⟨hne, hd⟩
    · exact hon hp
    · rw [ho _ (hother d l' hne hd)]
      exact h.listening d l' hd hp
  · intro d l' hd hp
    rcases hget d l' hd with ⟨rfl, rfl⟩ | ⟨hne, hd⟩
    · exact hoff hp
    · rw [ho _ (hother d l' hne hd)]
      exact h.silent d l' hd hp

/-- Redis sends a message to the subscriptions of its channel, or a listener takes one. -/
theorem map_pending (h : Wired owned n) (f : Nat → Subscriber → Subscriber)
    (ho : ∀ t, owned' t = (owned t).map (f t)) (hf : ∀ t s, (f t s).channel = s.channel)
    (hm : ∀ t s, (∀ m ∈ s.pending, m.channel = s.channel) →
      ∀ m ∈ (f t s).pending, m.channel = s.channel) : Wired owned' n := by
  constructor
  · exact h.live
  · exact h.used
  · exact h.distinct
  · exact h.retired
  · intro t ht
    rw [ho, h.fresh t ht, List.map_nil]
  · intro d l hd hp
    obtain ⟨s, hs, hc, hpend⟩ := h.listening d l hd hp
    refine ⟨f l.task s, by rw [ho, hs, List.map_singleton], (hf _ s).trans hc, ?_⟩
    rw [← hc]
    exact hm _ s (by rw [hc]; exact hpend)
  · intro d l hd hp
    rw [ho, h.silent d l hd hp, List.map_nil]

end Wired

/-! ## 3. The same for a process and its Redis -/

section Process

variable {env : Env} {g : Gateway}

theorem wired_effect {x : ConnId} {tenantId : String} {sc : Scope} {g' : Gateway}
    (h : Wired (ownedBy env g.redis) g.node) (e : Effect env x tenantId sc g g') :
    Wired (ownedBy env g'.redis) g'.node := by
  cases e with
  | redis hs => exact h.congr rfl rfl rfl (fun t => by simp only [ownedBy, setRedis, hs.subscribers])
  | write frame _ => exact h.outbound (Node.outbound_sendText x frame _)
  | bookkeeping f hf => exact h.outbound (Node.outbound_updateConn _ _ (fun c _ => hf.ident c))
  | replay channel messages _ _ _ => exact h.outbound (outbound_replayInto env x channel messages _)
  | subscribe channel _ _ => exact h.congr rfl rfl rfl (fun _ => rfl)
  | countUp channel _ _ => exact h.congr rfl rfl rfl (fun _ => rfl)
  | startListener channel _ _ => exact h.startListener channel
  | unsubscribe channel _ => exact h.congr rfl rfl rfl (fun _ => rfl)
  | countDown channel _ => exact h.countDown channel
  | add sessionId userId _ => exact h.congr rfl rfl rfl (fun _ => rfl)
  | remove _ => exact h.congr rfl rfl rfl (fun _ => rfl)
  | look => exact h

theorem wired_listenerStep (h : Wired (ownedBy env g.redis) g.node) (channel : Channel)
    (a : ListenerAct) :
    Wired (ownedBy env (listenerStep env channel a g).redis) (listenerStep env channel a g).node := by
  rcases listenerStep_cases env channel a g with heq | ⟨l, hl, -, -, hcase⟩
  · rw [heq]; exact h
  rcases hcase with ⟨-, hp, heq⟩ | ⟨-, -, m, rest, -, heq⟩ | ⟨-, hp, heq⟩ | ⟨-, -, heq⟩ | ⟨-, hp, heq⟩
  · -- SUBSCRIBE: the task owned nothing, and owns one empty subscription now
    rw [heq]
    refine h.setPhase hl rfl rfl rfl (fun t ht => ?_) (fun _ => ?_) (fun hne => absurd rfl hne)
    · exact (ownedBy_addSubscriber channel).trans (by rw [if_neg ht, List.append_nil])
    · refine ⟨⟨env.settings.nodeId, l.task, channel, []⟩, ?_, rfl, by simp⟩
      refine (ownedBy_addSubscriber channel).trans ?_
      rw [if_pos rfl, h.silent channel l hl (by simp [hp]), List.nil_append]
  · -- a message is taken off the task's subscription
    rw [heq]
    refine Wired.outbound (n := g.node) ?_ (Node.outbound_deliverLocal env channel m _)
    refine h.map_pending (fun t s => if t = l.task then { s with pending := s.pending.tail } else s)
      (fun t => ?_) (fun t s => by split <;> rfl) (fun t s hs m' hm' => ?_)
    · refine ownedBy_popPending.trans ?_
      split
      · rfl
      · simp
    · split at hm'
      · exact hs m' (List.mem_of_mem_tail hm')
      · exact hs m' hm'
  · rw [heq]
    exact h.setPhase hl rfl rfl rfl (fun _ _ => rfl) (by simp)
      (fun _ => h.silent channel l hl (by simp [hp]))
  · -- the connection to Redis breaks, and the subscription with it
    rw [heq]
    refine h.setPhase hl rfl rfl rfl (fun t ht => ?_) (by simp) (fun _ => ?_)
    · exact ownedBy_dropSubscriber.trans (if_neg ht)
    · exact ownedBy_dropSubscriber.trans (if_pos rfl)
  · rw [heq]
    exact h.setPhase hl rfl rfl rfl (fun _ _ => rfl) (by simp)
      (fun _ => h.silent channel l hl (by simp [hp]))

theorem wired_reap (h : Wired (ownedBy env g.redis) g.node) :
    Wired (ownedBy env (reap env g).redis) (reap env g).node := by
  unfold reap
  split
  · exact h
  · rename_i channel l rest hr
    obtain ⟨-, hlive⟩ := h.retired (channel, l) (by rw [hr]; exact List.mem_cons_self)
    have howned : ∀ t, ownedBy env (dropSubscriber env l.task (setNode { g.node with
        retired := rest } g)).redis t = if t = l.task then [] else ownedBy env g.redis t :=
      fun t => ownedBy_dropSubscriber
    constructor
    · exact h.live
    · exact h.used
    · exact h.distinct
    · exact fun p hp => h.retired p (by rw [hr]; exact List.mem_cons_of_mem _ hp)
    · intro t ht
      rw [howned]
      split
      · rfl
      · exact h.fresh t ht
    · intro d l' hd hp
      rw [howned, if_neg (hlive d l' hd)]
      exact h.listening d l' hd hp
    · intro d l' hd hp
      rw [howned, if_neg (hlive d l' hd)]
      exact h.silent d l' hd hp

/-- What a publisher does to the subscriptions: nothing, unless it is the PUBLISH. -/
theorem ownedBy_fire {other : Env} {call : PublishCall} {st : Stage} {r : Redis} (t : Nat)
    (hst : ∀ k, st ≠ .trimmed k) :
    ownedBy env (Stage.fire other call r st).1 t = ownedBy env r t := by
  cases st with
  | trimmed k => exact absurd rfl (hst k)
  | stored k =>
    simp only [Stage.fire, xtrim]
    split <;> rfl
  | _ => rfl

theorem wired_publish {call : PublishCall} {k : Int} {n : Node} {r : Redis}
    (h : Wired (ownedBy env r) n) :
    Wired (ownedBy env (publish call.channel (Stage.envelope call k) r).2) n := by
  refine h.map_pending (fun _ => Subscriber.receive call.channel (Stage.envelope call k r))
    (fun t => ownedBy_publish _ _ r) (fun t s => ?_) (fun t s hs m hm => ?_)
  · unfold Subscriber.receive
    split <;> rfl
  · unfold Subscriber.receive at hm
    split at hm
    · rename_i hc
      rcases List.mem_append.mp hm with hm | hm
      · exact hs m hm
      · rw [List.mem_singleton.mp hm, hc]
        rfl
    · exact hs m hm

end Process

/-! ## 4. Local delivery -/

/-- What `deliver_local` does for one subscriber. -/
def Connection.delivered (env : Env) (channel : Channel) (m : MessageFrame) (conn : Connection) :
    Connection :=
  if conn.state = .active then
    match conn.enqueue env (.message m) .normal (some channel) (some m.sequence) with
    | .ok conn' => conn'
    | .error _ => conn
  else conn

namespace Node

theorem get_deliverTo (env : Env) (channel : Channel) (m : MessageFrame) (n : Node)
    (x y : ConnId) :
    (n.deliverTo env channel m y).registry.byId.get? x = if x = y then
      (n.registry.byId.get? x).map (Connection.delivered env channel m)
      else n.registry.byId.get? x := by
  unfold deliverTo
  cases hy : n.registry.byId.get? y with
  | none =>
    simp only
    split
    · rename_i h; rw [h, hy]; rfl
    · rfl
  | some conn =>
    have hsame : ∀ c, conn.delivered env channel m = c → x = y →
        (n.registry.byId.get? x).map (Connection.delivered env channel m) = some c := by
      intro c hc hx
      rw [hx, hy, Option.map_some, hc]
    simp only
    split
    · rename_i hact
      split
      · rename_i conn' he
        rw [updateConn, Registry.get_updateConn]
        split
        · rename_i hx
          rw [hsame conn' (by rw [Connection.delivered, if_pos hact, he]) hx, hx, hy]
          rfl
        · rfl
      · rename_i e he
        split
        · rename_i hx
          rw [hsame conn (by rw [Connection.delivered, if_pos hact, he]) hx, hx, hy]
        · rfl
    · rename_i hact
      split
      · rename_i hx
        rw [hsame conn (by rw [Connection.delivered, if_neg hact]) hx, hx, hy]
      · rfl

/-- **`deliver_local`, as an equation.**  Every registered subscriber gets the message once. -/
theorem get_deliverLocal (env : Env) (channel : Channel) (m : MessageFrame) (n : Node)
    (x : ConnId) :
    (n.deliverLocal env channel m).registry.byId.get? x =
      if x ∈ n.registry.subscribersOf channel then
        (n.registry.byId.get? x).map (Connection.delivered env channel m)
      else n.registry.byId.get? x := by
  have hloop := foldl_pointwise (fun (n : Node) y => n.registry.byId.get? y)
    (fun n y x => get_deliverTo env channel m n x y) x _ n
    (Registry.nodup_localSubscribers n.registry channel)
  rw [deliverLocal, hloop]
  by_cases hx : (n.registry.byId.get? x).isSome
  · simp [Registry.localSubscribers, hx, OSet.mem_def]
  · rw [Option.not_isSome_iff_eq_none.mp hx]
    simp

end Node

/-! ## 5. The backlog of a channel -/

/-- What Redis has sent to the listener of a channel and the listener has not processed. -/
def backlog (env : Env) (channel : Channel) (g : Gateway) : List MessageFrame :=
  match g.node.listeners.get? channel with
  | some l => pendingOf env l.task g.redis
  | none => []

section Backlog

variable {env : Env} {channel : Channel} {g g' : Gateway}

theorem backlog_congr (hl : g'.node.listeners.get? channel = g.node.listeners.get? channel)
    (ho : ∀ t, ownedBy env g'.redis t = ownedBy env g.redis t) :
    backlog env channel g' = backlog env channel g := by
  unfold backlog
  rw [hl]
  split
  · rw [pendingOf_eq, pendingOf_eq, ho]
  · rfl

/-- A channel whose listener is not in `pubsub.listen()` has no backlog. -/
theorem backlog_silent (h : Wired (ownedBy env g.redis) g.node)
    (hp : ∀ l, g.node.listeners.get? channel = some l → l.phase ≠ .listening) :
    backlog env channel g = [] := by
  unfold backlog
  split
  · rename_i l hl
    rw [pendingOf_eq, h.silent channel l hl (hp l hl)]
    rfl
  · rfl

/-- Starting a listener does not touch a backlog. -/
theorem backlog_startListener (h : Wired (ownedBy env g.redis) g.node) (d : Channel) :
    backlog env channel (setNode (g.node.startListener d) g) = backlog env channel g := by
  rcases eq_or_ne channel d with rfl | hne
  · have hnew : backlog env channel (setNode (g.node.newListener channel) g) = [] := by
      refine backlog_silent (h.newListener channel) (fun l hl => ?_)
      simp only [setNode, Node.newListener, Dict.get?_set, if_true] at hl
      rw [← Option.some.inj hl]
      simp
    unfold Node.startListener
    cases hl : g.node.listeners.get? channel with
    | none => rw [hnew, backlog, hl]
    | some l =>
      simp only
      split
      · rename_i hp
        rw [hnew]
        refine (backlog_silent h (fun l' hl' => ?_)).symm
        rw [← Option.some.inj (hl.symm.trans hl'), hp]
        simp
      · rfl
  · exact backlog_congr (Node.listeners_startListener_of_ne hne _) (fun _ => rfl)

/-- The last unsubscriber throws the backlog away. -/
theorem backlog_countDown (d : Channel) :
    backlog env channel (setNode (g.node.countDown d).2 g) = backlog env channel g ∨
      backlog env channel (setNode (g.node.countDown d).2 g) = [] := by
  unfold Node.countDown
  split
  · rcases eq_or_ne channel d with rfl | hne
    · refine Or.inr ?_
      unfold backlog
      simp only [setNode, Node.stopListener]
      cases hl : g.node.listeners.get? channel with
      | none => simp only [hl]
      | some l => simp
    · exact Or.inl (backlog_congr (Node.listeners_stopListener_of_ne hne _) (fun _ => rfl))
  · exact Or.inl rfl

/-- A handler throws a backlog away, or leaves it. -/
theorem backlog_effect {x : ConnId} {tenantId : String} {sc : Scope}
    (h : Wired (ownedBy env g.redis) g.node) (e : Effect env x tenantId sc g g') :
    backlog env channel g' = backlog env channel g ∨ backlog env channel g' = [] := by
  cases e with
  | redis hs =>
    exact Or.inl (backlog_congr rfl (fun t => by simp only [ownedBy, setRedis, hs.subscribers]))
  | write frame _ =>
    exact Or.inl (backlog_congr (congrArg (fun d => d.get? channel)
      (Node.outbound_sendText x frame _).listeners) (fun _ => rfl))
  | bookkeeping f hf => exact Or.inl rfl
  | replay d messages _ _ _ =>
    exact Or.inl (backlog_congr (congrArg (fun l => l.get? channel)
      (outbound_replayInto env x d messages _).listeners) (fun _ => rfl))
  | subscribe d _ _ => exact Or.inl rfl
  | countUp d _ _ => exact Or.inl rfl
  | startListener d _ _ => exact Or.inl (backlog_startListener h d)
  | unsubscribe d _ => exact Or.inl rfl
  | countDown d _ => exact backlog_countDown d
  | add sessionId userId _ => exact Or.inl rfl
  | remove _ => exact Or.inl rfl
  | look => exact Or.inl rfl

theorem backlog_reap (h : Wired (ownedBy env g.redis) g.node) :
    backlog env channel (reap env g) = backlog env channel g := by
  unfold reap
  split
  · rfl
  · rename_i d l rest hr
    obtain ⟨-, hlive⟩ := h.retired (d, l) (by rw [hr]; exact List.mem_cons_self)
    unfold backlog
    simp only [dropSubscriber, setRedis, setNode]
    cases hl : g.node.listeners.get? channel with
    | none => rfl
    | some l' =>
      exact congrArg (List.flatMap Subscriber.pending)
        ((ownedBy_dropSubscriber (g := g)).trans (if_neg (hlive channel l' hl)))

/-- PUBLISH appends to the backlog of a channel whose listener is in `pubsub.listen()`. -/
theorem backlog_publish (channel d : Channel) (frame : Redis → MessageFrame) {n : Node} {r : Redis}
    (h : Wired (ownedBy env r) n) :
    backlog env channel ⟨(publish d frame r).2, n⟩ = backlog env channel ⟨r, n⟩ ++
      if d = channel ∧ ∃ l, n.listeners.get? channel = some l ∧ l.phase = .listening
      then [frame r] else [] := by
  unfold backlog
  cases hl : n.listeners.get? channel with
  | none => simp
  | some l =>
    simp only [pendingOf_eq, ownedBy_publish]
    by_cases hp : l.phase = .listening
    · obtain ⟨s, hs, hc, -⟩ := h.listening channel l hl hp
      rw [hs]
      simp only [List.map_singleton, List.flatMap_cons, List.flatMap_nil, List.append_nil,
        Subscriber.receive, hc]
      by_cases hd : d = channel
      · simp [hd, hp]
      · simp [hd, Ne.symm hd]
    · rw [h.silent channel l hl hp]
      simp [hp]

/-- The next message of a listener: it is one of its channel, and it is taken off the backlog of
that channel and of no other. -/
theorem backlog_receive (channel : Channel) {d : Channel} {l : Listener} {m : MessageFrame}
    {rest : List MessageFrame}
    {n : Node} (h : Wired (ownedBy env g.redis) g.node) (hl : g.node.listeners.get? d = some l)
    (hp : l.phase = .listening) (hm : pendingOf env l.task g.redis = m :: rest)
    (hn : n.listeners = g.node.listeners) :
    m.channel = d ∧ (channel = d → backlog env channel g
        = m :: backlog env channel (setNode n (popPending env l.task g))) ∧
      (channel ≠ d → backlog env channel (setNode n (popPending env l.task g))
        = backlog env channel g) := by
  obtain ⟨s, hs, hc, hpend⟩ := h.listening d l hl hp
  have hsm : s.pending = m :: rest := by
    rw [pendingOf_eq, hs] at hm
    simpa using hm
  refine ⟨hpend m (by rw [hsm]; exact List.mem_cons_self), ?_, fun hne => ?_⟩
  · rintro rfl
    have hpop : ownedBy env (setNode n (popPending env l.task g)).redis l.task
        = [{ s with pending := s.pending.tail }] := by
      refine ownedBy_popPending.trans ?_
      rw [if_pos rfl, hs, List.map_singleton]
    unfold backlog
    simp only [setNode, hn, hl] at hpop ⊢
    rw [hm, pendingOf_eq, hpop]
    simp [hsm]
  · unfold backlog
    simp only [setNode, hn]
    cases hl' : g.node.listeners.get? channel with
    | none => rfl
    | some l' =>
      simp only [pendingOf_eq]
      rw [ownedBy_popPending, if_neg (fun ht => hne (h.distinct channel d l' l hl' hl ht))]

/-- **One resumption of a listener, seen from the backlog of a channel.**  The head of the backlog
goes to the subscribers; or another channel's message does; or nothing is delivered, and the
backlog stays unless the connection to Redis breaks. -/
theorem backlog_listenerStep (h : Wired (ownedBy env g.redis) g.node) (channel d : Channel)
    (a : ListenerAct) :
    (∃ m, a = .receive ∧ d = channel ∧ m.channel = channel ∧
      backlog env channel g = m :: backlog env channel (listenerStep env d a g) ∧
      (listenerStep env d a g).node = g.node.deliverLocal env channel m) ∨
    (∃ m, d ≠ channel ∧ m.channel = d ∧
      backlog env channel (listenerStep env d a g) = backlog env channel g ∧
      (listenerStep env d a g).node = g.node.deliverLocal env d m) ∨
    ((listenerStep env d a g).node.registry = g.node.registry ∧
      (backlog env channel (listenerStep env d a g) = backlog env channel g ∨
        a = .fail ∧ backlog env channel (listenerStep env d a g) = [])) := by
  have hw' := wired_listenerStep h d a
  rcases listenerStep_cases env d a g with heq | ⟨l, hl, -, -, hcase⟩
  · rw [heq]; exact Or.inr (Or.inr ⟨rfl, Or.inl rfl⟩)
  -- a change of phase: other channels do not notice
  have hother : ∀ (phase : ListenerPhase) (g₁ : Gateway), g₁.node = g.node → channel ≠ d →
      (∀ t, t ≠ l.task → ownedBy env g₁.redis t = ownedBy env g.redis t) →
      backlog env channel (setPhase d l phase g₁) = backlog env channel g := by
    intro phase g₁ hnode hne howned
    have hlis : (setPhase d l phase g₁).node.listeners.get? channel
        = g.node.listeners.get? channel := by simp [setPhase, setNode, hnode, hne]
    unfold backlog
    rw [hlis]
    cases hl' : g.node.listeners.get? channel with
    | none => rfl
    | some l' =>
      exact congrArg (List.flatMap Subscriber.pending) (howned l'.task
        (fun ht => hne (h.distinct channel d l' l hl' hl ht)))
  -- and a listener that is not in `pubsub.listen()` has no backlog
  have hoff : ∀ (phase : ListenerPhase) (g₁ : Gateway), phase ≠ .listening →
      listenerStep env d a g = setPhase d l phase g₁ →
      backlog env d (setPhase d l phase g₁) = [] := by
    intro phase g₁ hp heq
    rw [heq] at hw'
    refine backlog_silent hw' (fun l' hl' => ?_)
    simp only [setPhase, setNode, Dict.get?_set, if_true] at hl'
    rw [← Option.some.inj hl']
    exact hp
  have hbefore : l.phase ≠ .listening → backlog env d g = [] := fun hp =>
    backlog_silent h (fun l' hl' => Option.some.inj (hl.symm.trans hl') ▸ hp)
  rcases hcase with ⟨-, hp, heq⟩ | ⟨ha, hp, m, rest, hm, heq⟩ | ⟨-, hp, heq⟩ | ⟨ha, -, heq⟩ |
    ⟨-, hp, heq⟩
  · refine Or.inr (Or.inr ⟨by rw [heq]; rfl, Or.inl ?_⟩)
    rw [heq]
    rcases eq_or_ne channel d with rfl | hne
    · rw [hbefore (by simp [hp])]
      have hl' : (setPhase channel l .listening (addSubscriber env channel l.task g)
          ).node.listeners.get? channel = some { l with phase := .listening } := by
        simp [setPhase, setNode]
      have howned : ownedBy env (addSubscriber env channel l.task g).redis l.task
          = [⟨env.settings.nodeId, l.task, channel, []⟩] := by
        rw [ownedBy_addSubscriber, if_pos rfl, h.silent channel l hl (by simp [hp]),
          List.nil_append]
      unfold backlog
      rw [hl']
      exact congrArg (List.flatMap Subscriber.pending) howned
    · refine hother _ _ rfl hne (fun t ht => ?_)
      rw [ownedBy_addSubscriber, if_neg ht, List.append_nil]
  · have hn := (Node.outbound_deliverLocal env d m g.node).listeners
    obtain ⟨hmc, htake, hkeep⟩ := backlog_receive channel h hl hp hm hn
    rw [heq]
    rcases eq_or_ne channel d with hc | hne
    · exact Or.inl ⟨m, ha, hc.symm, hmc.trans hc.symm, htake hc, by rw [hc]; rfl⟩
    · exact Or.inr (Or.inl ⟨m, Ne.symm hne, hmc, hkeep hne, rfl⟩)
  · refine Or.inr (Or.inr ⟨by rw [heq]; rfl, Or.inl ?_⟩)
    rcases eq_or_ne channel d with rfl | hne
    · rw [heq, hoff _ _ (by simp) heq, hbefore (by simp [hp])]
    · rw [heq]; exact hother _ _ rfl hne (fun _ _ => rfl)
  · refine Or.inr (Or.inr ⟨by rw [heq]; rfl, ?_⟩)
    rcases eq_or_ne channel d with rfl | hne
    · exact Or.inr ⟨ha, by rw [heq, hoff _ _ (by simp) heq]⟩
    · refine Or.inl ?_
      rw [heq]
      refine hother _ _ rfl hne (fun t ht => ?_)
      rw [ownedBy_dropSubscriber, if_neg ht]
  · refine Or.inr (Or.inr ⟨by rw [heq]; rfl, Or.inl ?_⟩)
    rcases eq_or_ne channel d with rfl | hne
    · rw [heq, hoff _ _ (by simp) heq, hbefore (by simp [hp])]
    · rw [heq]; exact hother _ _ rfl hne (fun _ _ => rfl)

end Backlog

/-! ## 6. A rule for invariants of all processes -/

/-- A property of processes that everything keeps, on processes that are wired.  `resumes` says
which connections may replay, `Allowed` which PUBLISHes may happen. -/
structure Kept (env : Env) (resumes : NodeId → ConnId → Bool)
    (Allowed : Redis → PublishCall → Int → Prop) (J : NodeId → Gateway → Prop) : Prop where
  effect : ∀ {m y tenantId g g'}, Wired (ownedBy (env.at m) g.redis) g.node → J m g →
    Effect (env.at m) y tenantId ⟨resumes m y, true, fun _ => True, fun _ _ => True⟩ g g' → J m g'
  redis : ∀ {m r r' node}, J m ⟨r, node⟩ → r'.published = r.published →
    (∀ t, ownedBy (env.at m) r' t = ownedBy (env.at m) r t) → J m ⟨r', node⟩
  publish : ∀ {m call k r node}, Wired (ownedBy (env.at m) r) node → Allowed r call k →
    J m ⟨r, node⟩ → J m ⟨(publish call.channel (Stage.envelope call k) r).2, node⟩
  listener : ∀ {m g} channel a, Wired (ownedBy (env.at m) g.redis) g.node → J m g →
    J m (listenerStep (env.at m) channel a g)
  reap : ∀ {m g}, Wired (ownedBy (env.at m) g.redis) g.node → J m g → J m (reap (env.at m) g)
  terminating : ∀ {m r node} l, J m ⟨r, node⟩ → J m ⟨r, { node with terminating := l }⟩
  sender : ∀ {m r node} y, J m ⟨r, node⟩ →
    J m ⟨r, node.updateConn y (fun conn => (conn.senderStep env).getD conn)⟩
  sendFails : ∀ {m r node} y, J m ⟨r, node⟩ → J m ⟨r, node.updateConn y Connection.sendFails⟩
  ping : ∀ {m r node} y serverTime, J m ⟨r, node⟩ →
    J m ⟨r, node.updateConn y (World.pingConn env serverTime)⟩
  timeout : ∀ {m r node} y, J m ⟨r, node⟩ →
    J m ⟨r, node.updateConn y (fun conn => { conn with state := .dead })⟩

/-- The step is one the rule allows. -/
def WorldAct.AllowedBy (resumes : NodeId → ConnId → Bool)
    (Allowed : Redis → PublishCall → Int → Prop) (w : World) : WorldAct → Prop
  | .accept m s inputs => ∀ input ∈ inputs, input.isResume = true → resumes m s.connectionId = true
  | .publisher i => ∀ p ∈ w.publishers[i]?, ∀ k, p.2 = .trimmed k → Allowed w.redis p.1 k
  | _ => True

namespace Kept

variable {env : Env} {resumes : NodeId → ConnId → Bool}
  {Allowed : Redis → PublishCall → Int → Prop} {J : NodeId → Gateway → Prop}

/-- Two properties at once. -/
theorem and {J' : NodeId → Gateway → Prop} (K : Kept env resumes Allowed J)
    (K' : Kept env resumes Allowed J') : Kept env resumes Allowed (fun m g => J m g ∧ J' m g) where
  effect hw h e := ⟨K.effect hw h.1 e, K'.effect hw h.2 e⟩
  redis h hp ho := ⟨K.redis h.1 hp ho, K'.redis h.2 hp ho⟩
  publish hw hok h := ⟨K.publish hw hok h.1, K'.publish hw hok h.2⟩
  listener channel a hw h := ⟨K.listener channel a hw h.1, K'.listener channel a hw h.2⟩
  reap hw h := ⟨K.reap hw h.1, K'.reap hw h.2⟩
  terminating l h := ⟨K.terminating l h.1, K'.terminating l h.2⟩
  sender y h := ⟨K.sender y h.1, K'.sender y h.2⟩
  sendFails y h := ⟨K.sendFails y h.1, K'.sendFails y h.2⟩
  ping y serverTime h := ⟨K.ping y serverTime h.1, K'.ping y serverTime h.2⟩
  timeout y h := ⟨K.timeout y h.1, K'.timeout y h.2⟩

/-- The property together with the wiring it rests on. -/
def Inv (env : Env) (J : NodeId → Gateway → Prop) (m : NodeId) (g : Gateway) : Prop :=
  Wired (ownedBy (env.at m) g.redis) g.node ∧ J m g

/-- The segments of a process's handlers. -/
def Move (env : Env) (resumes : NodeId → ConnId → Bool) (m : NodeId) (g g' : Gateway) : Prop :=
  ∃ y tenantId, Effect (env.at m) y tenantId ⟨resumes m y, true, fun _ => True, fun _ _ => True⟩ g g'

theorem inv_effect (K : Kept env resumes Allowed J) {m : NodeId} (y : ConnId) (tenantId : String) :
    Effect.Invariant (env.at m) y tenantId ⟨resumes m y, true, fun _ => True, fun _ _ => True⟩
      (Inv env J m) :=
  fun _ _ h e => ⟨wired_effect h.1 e, K.effect h.1 h.2 e⟩

theorem inv_redis (K : Kept env resumes Allowed J) {m : NodeId} {r r' : Redis} {node : Node}
    (h : Inv env J m ⟨r, node⟩) (hp : r'.published = r.published)
    (ho : ∀ t, ownedBy (env.at m) r' t = ownedBy (env.at m) r t) : Inv env J m ⟨r', node⟩ :=
  ⟨h.1.congr rfl rfl rfl ho, K.redis h.2 hp ho⟩

theorem inv_fire (K : Kept env resumes Allowed J) {m : NodeId} {call : PublishCall} {st : Stage}
    {r : Redis} {node : Node} (h : Inv env J m ⟨r, node⟩)
    (hok : ∀ k, st = .trimmed k → Allowed r call k) :
    Inv env J m ⟨(Stage.fire env call r st).1, node⟩ := by
  by_cases hst : ∃ k, st = .trimmed k
  · obtain ⟨k, rfl⟩ := hst
    exact ⟨wired_publish h.1, K.publish h.1 (hok k rfl) h.2⟩
  · have hne : ∀ k, st ≠ .trimmed k := fun k hk => hst ⟨k, hk⟩
    refine K.inv_redis h ?_ (fun t => ownedBy_fire t hne)
    cases st with
    | trimmed k => exact absurd rfl (hne k)
    | stored k =>
      simp only [Stage.fire, xtrim]
      split <;> rfl
    | _ => rfl

theorem inv_updateConn {m : NodeId} {w : World} (h : w.Holds (Inv env J) (Move env resumes))
    (y : ConnId) {f : Connection → Connection} (hid : ∀ conn, (f conn).ident = conn.ident)
    (hJ : J m ⟨w.redis, (w.nodes m).updateConn y f⟩) :
    (w.onNode m (Node.updateConn y f)).Holds (Inv env J) (Move env resumes) :=
  h.onNode ⟨(h.1 m).1.outbound (Node.outbound_updateConn _ _ (fun conn _ => hid conn)), hJ⟩

/-- **One step of the system keeps the property at every process.** -/
theorem step (K : Kept env resumes Allowed J)
    (hfaults : ∀ r fs call k, Allowed r call k → Allowed { r with faults := fs } call k) (w : World)
    (a : WorldAct) (ha : a.AllowedBy resumes Allowed w)
    (h : w.Holds (Inv env J) (Move env resumes)) :
    (w.step env a).Holds (Inv env J) (Move env resumes) := by
  have hforeign : ∀ m m' : NodeId, m' ≠ m →
      (env.at m).settings.nodeId ≠ (env.at m').settings.nodeId := fun m m' hne => Ne.symm hne
  cases a with
  | accept m s inputs =>
    obtain ⟨tenantId, hauth⟩ := s.exists_tenant
    refine h.spawn (Prog.Keeps.mono (fun g g' _ he => ⟨s.connectionId, tenantId, he⟩) ?_)
    exact handleConnection_keeps (K.inv_effect s.connectionId tenantId) rfl hauth
      (fun _ _ => trivial) (fun _ _ _ _ _ => trivial) (fun _ _ _ _ _ _ => trivial) ha
      (fun _ _ _ _ => trivial)
  | task i =>
    refine h.task (fun m m' g g' node hne hmove hI => ?_) i
    obtain ⟨y, tenantId, he⟩ := hmove
    cases he with
    | redis hs =>
      exact K.inv_redis hI hs.published (fun t => by simp only [ownedBy, setRedis, hs.subscribers])
    | _ => exact hI
  | publish call => exact h
  | publisher i =>
    refine ⟨fun m => ?_, h.2⟩
    rcases Publishers.step_cases env ⟨w.redis, w.publishers⟩ i with
      heq | ⟨before, call, st, after, -, hi, -, ⟨rest, -, heq⟩ | ⟨fs, -, heq⟩⟩
    · simp only [World.step, World.stepPublisher, World.gateway, heq]
      exact h.1 m
    · simp only [World.step, World.stepPublisher, World.gateway, heq]
      exact K.inv_redis (h.1 m) rfl (fun _ => rfl)
    · simp only [World.step, World.stepPublisher, World.gateway, heq]
      exact K.inv_fire (K.inv_redis (h.1 m) rfl (fun _ => rfl))
        (fun k hk => hfaults _ _ _ _ (ha (call, st) hi k hk))
  | listener m channel a =>
    refine h.put ⟨wired_listenerStep (h.1 m).1 channel a, K.listener channel a (h.1 m).1 (h.1 m).2⟩
      (fun m' hne hI => K.inv_redis hI (by rw [published_listenerStep]; rfl)
        (ownedBy_listenerStep_foreign (hforeign m m' hne) channel a))
  | reap m =>
    exact h.put ⟨wired_reap (h.1 m).1, K.reap (h.1 m).1 (h.1 m).2⟩ (fun m' hne hI =>
      K.inv_redis hI (by rw [published_reap]; rfl) (ownedBy_reap_foreign (hforeign m m' hne)))
  | terminate m =>
    simp only [World.step, World.stepTerminate]
    split
    · exact h
    · rename_i y rest _
      refine World.Holds.spawn (w := w.onNode m (fun node => { node with terminating := rest }))
        (h.onNode ⟨(h.1 m).1.congr rfl rfl rfl (fun _ => rfl), K.terminating rest (h.1 m).2⟩)
        (Prog.Keeps.mono (fun g g' _ he => ⟨y, "", he⟩) ?_)
      exact terminateSlowConsumer_keeps (K.inv_effect y "")
  | sender m y => exact inv_updateConn h y (Connection.ident_senderStep env) (K.sender y (h.1 m).2)
  | sendFails m y => exact inv_updateConn h y Connection.ident_sendFails (K.sendFails y (h.1 m).2)
  | ping m y serverTime =>
    exact inv_updateConn h y (World.ident_pingConn env serverTime) (K.ping y serverTime (h.1 m).2)
  | timeout m y => exact inv_updateConn h y (fun _ => rfl) (K.timeout y (h.1 m).2)
  | tick micros => exact ⟨fun m => K.inv_redis (h.1 m) rfl (fun _ => rfl), h.2⟩

/-- After every run from processes that have just started, with the tasks in progress. -/
theorem holds_run (K : Kept env resumes Allowed J)
    (hfaults : ∀ r fs call k, Allowed r call k → Allowed { r with faults := fs } call k)
    (faults : List Bool) (trims : List Nat) (socketFaults : NodeId → List Bool)
    (hstart : ∀ m, J m ((World.start faults trims socketFaults).gateway m)) (acts : List WorldAct)
    (hacts : Along (World.step env) (fun w a => a.AllowedBy resumes Allowed w)
      (World.start faults trims socketFaults) acts) :
    (runAll (World.step env) (World.start faults trims socketFaults) acts).Holds (Inv env J)
      (Move env resumes) := by
  have h0 : (World.start faults trims socketFaults).Holds (Inv env J) (Move env resumes) := by
    refine ⟨fun m => ⟨?_, hstart m⟩, fun t ht => absurd ht List.not_mem_nil⟩
    constructor <;> intros <;> first | rfl | contradiction
  exact runAll_invariant (fun w a hw (ha : a.AllowedBy resumes Allowed w) =>
    K.step hfaults w a ha hw) acts _ h0 hacts

/-- **In every run**, from processes that have just started. -/
theorem run (K : Kept env resumes Allowed J)
    (hfaults : ∀ r fs call k, Allowed r call k → Allowed { r with faults := fs } call k)
    (faults : List Bool) (trims : List Nat) (socketFaults : NodeId → List Bool)
    (hstart : ∀ m, J m ((World.start faults trims socketFaults).gateway m)) (acts : List WorldAct)
    (hacts : Along (World.step env) (fun w a => a.AllowedBy resumes Allowed w)
      (World.start faults trims socketFaults) acts) (m : NodeId) :
    Inv env J m
      ((runAll (World.step env) (World.start faults trims socketFaults) acts).gateway m) :=
  (K.holds_run hfaults faults trims socketFaults hstart acts hacts).1 m

end Kept

theorem kept_true (env : Env) :
    Kept env (fun _ _ => true) (fun _ _ _ => True) (fun _ _ => True) := by
  constructor <;> intros <;> trivial

theorem WorldAct.allowedBy_true (a : WorldAct) (w : World) :
    a.AllowedBy (fun _ _ => true) (fun _ _ _ => True) w := by
  cases a with
  | accept m s inputs => exact fun _ _ _ => rfl
  | publisher i => exact fun _ _ _ _ => trivial
  | _ => trivial

/-- The processes are wired, and every task in progress moves by effects of its connection. -/
def World.Tame (env : Env) (w : World) : Prop :=
  w.Holds (Kept.Inv env (fun _ _ => True)) (Kept.Move env (fun _ _ => true))

theorem World.Tame.step {env : Env} {w : World} (h : w.Tame env) (a : WorldAct) :
    (w.step env a).Tame env :=
  (kept_true env).step (fun _ _ _ _ _ => trivial) w a (a.allowedBy_true w) h

theorem tame_run (env : Env) (faults : List Bool) (trims : List Nat)
    (socketFaults : NodeId → List Bool) (acts : List WorldAct) :
    (runAll (World.step env) (World.start faults trims socketFaults) acts).Tame env :=
  (kept_true env).holds_run (fun _ _ _ _ _ => trivial) faults trims socketFaults (fun _ => trivial)
    acts ((along_of_forall acts (fun _ _ => trivial)).mono
      (fun w a (_ : True) => a.allowedBy_true w))

/-- **Every listener has its own subscription**, in every reachable state of every process. -/
theorem wired_run (env : Env) (faults : List Bool) (trims : List Nat)
    (socketFaults : NodeId → List Bool) (acts : List WorldAct) (m : NodeId) :
    Wired (ownedBy (env.at m) (runAll (World.step env)
        (World.start faults trims socketFaults) acts).redis)
      ((runAll (World.step env) (World.start faults trims socketFaults) acts).nodes m) :=
  ((tame_run env faults trims socketFaults acts).1 m).1

/-- What a step other than a publisher's command does to the channels: their counters, streams and
topics stay, and a call may have been made. -/
theorem World.Tame.step_channels {env : Env} {w : World} (h : w.Tame env) (a : WorldAct)
    (ha : ∀ i, a ≠ .publisher i) :
    (w.step env a).redis.sequence = w.redis.sequence ∧
      (w.step env a).redis.stream = w.redis.stream ∧
      (w.step env a).redis.appended = w.redis.appended ∧
      (w.step env a).redis.published = w.redis.published ∧
      ((w.step env a).publishers = w.publishers ∨
        ∃ call, a = .publish call ∧ (w.step env a).publishers = w.publishers ++ [(call, .start)]) := by
  cases a with
  | publisher i => exact absurd rfl (ha i)
  | publish call => exact ⟨rfl, rfl, rfl, rfl, Or.inr ⟨call, rfl, rfl⟩⟩
  | task i =>
    simp only [World.step, World.stepTask]
    split
    · rename_i m f k hi
      obtain ⟨-, ⟨y, tenantId, he⟩, -⟩ := h.2 _ (List.mem_of_getElem? hi) (w.gateway m) (h.1 m)
      obtain ⟨h1, h2, h3, h4⟩ := he.channels
      exact ⟨h1, h2, h3, h4, Or.inl rfl⟩
    · exact ⟨rfl, rfl, rfl, rfl, Or.inl rfl⟩
  | listener m channel b =>
    obtain ⟨h1, -, -⟩ := listenerStep_frame (env.at m) channel b (w.gateway m)
    obtain ⟨h2, h3⟩ := listenerStep_channels (env.at m) channel b (w.gateway m)
    exact ⟨h2, h3, h1, published_listenerStep (env.at m) channel b (w.gateway m), Or.inl rfl⟩
  | reap m =>
    obtain ⟨h1, -, -⟩ := reap_frame (env.at m) (w.gateway m)
    obtain ⟨h2, h3⟩ := reap_channels (env.at m) (w.gateway m)
    exact ⟨h2, h3, h1, published_reap (env.at m) (w.gateway m), Or.inl rfl⟩
  | terminate m =>
    simp only [World.step, World.stepTerminate]
    split <;> exact ⟨rfl, rfl, rfl, rfl, Or.inl rfl⟩
  | _ => exact ⟨rfl, rfl, rfl, rfl, Or.inl rfl⟩

end Relay
