/-
# Answers from the idempotency record

`POST /v1/publish` answers a request whose `Idempotency-Key` is recorded with the id and the number
under the key, and publishes nothing.  The key does not mention the channel or the payload.  A request
that reuses a key for another message gets a 200 for a message it never sent.

Requests are served here one after another; time may pass between them and between the commands of
one (`serve`).  What the store holds after any such run is known from the requests (`Accounts`): every
entry was appended by one of them, and every record stands for an entry of the request that wrote it.

* `answered_is_published_iff`: an answered request is published exactly if the record that answered it,
  if there was one, was written by a request for the same channel and payload;
* `reused_key_is_not_published`: the same key for another channel.
-/
import Mathlib
import Relay.PublishApi

namespace Relay

open Redis

/-! ## 1. What a publish leaves in the store -/

/-- Time passes. -/
def Redis.tick (microseconds : Nat) (r : Redis) : Redis := { r with now := r.now + microseconds }

/-- What happens between the commands of a request. -/
def Passes (r r' : Redis) : Prop := ∃ microseconds, r' = r.tick microseconds

/-- The entry of a call is in the history of its channel, under the number. -/
def Entered (call : PublishCall) (n : Int) (r : Redis) : Prop :=
  ∃ e ∈ r.appended call.channel,
    e.messageId = call.messageId ∧ e.sequence = n ∧ e.payload = call.payload

/-- A call adds its own entry to the history, takes none out, and leaves the records alone. -/
structure Publishing (call : PublishCall) (r r' : Redis) : Prop where
  kept : ∀ c, r.appended c ⊆ r'.appended c
  own : ∀ c, ∀ e ∈ r'.appended c, e ∈ r.appended c ∨
    c = call.channel ∧ e.messageId = call.messageId ∧ e.payload = call.payload
  records : r'.idempotency = r.idempotency

section Publishing

variable {call : PublishCall} {n : Int} {r r' : Redis}

theorem passes_refl (r : Redis) : Passes r r := ⟨0, rfl⟩

theorem passes_trans (a b c : Redis) (h : Passes a b) (k : Passes b c) : Passes a c := by
  obtain ⟨s, rfl⟩ := h
  obtain ⟨t, rfl⟩ := k
  exact ⟨s + t, by simp [tick, Nat.add_assoc]⟩

/-- The histories and the records are all that counts. -/
theorem Publishing.of_eq (ha : r'.appended = r.appended) (hk : r'.idempotency = r.idempotency) :
    Publishing call r r' :=
  ⟨fun c => by rw [ha]; exact List.Subset.refl _, fun c e he => Or.inl (by rwa [ha] at he), hk⟩

theorem Publishing.trans {a b c : Redis} (h : Publishing call a b) (k : Publishing call b c) :
    Publishing call a c := by
  refine ⟨fun d => List.Subset.trans (h.kept d) (k.kept d), fun d e he => ?_,
    k.records.trans h.records⟩
  rcases k.own d e he with he | hown
  · exact h.own d e he
  · exact Or.inr hown

theorem Passes.publishing (h : Passes r r') : Publishing call r r' := by
  obtain ⟨t, rfl⟩ := h
  exact .of_eq rfl rfl

theorem Passes.kept (h : Passes r r') (c : Channel) : r.appended c ⊆ r'.appended c := by
  obtain ⟨t, rfl⟩ := h
  exact List.Subset.refl _

theorem Entered.mono (h : Entered call n r) (hk : ∀ c, r.appended c ⊆ r'.appended c) :
    Entered call n r' := by
  obtain ⟨e, he, heq⟩ := h
  exact ⟨e, hk _ he, heq⟩

/-- A command that may fail. -/
theorem publishing_attempt {α : Type} {f : Redis → Except Exn α × Redis}
    (h : ∀ r, Publishing call r (f r).2) (r : Redis) : Publishing call r (attempt f r).2 := by
  rcases attempt_cases f r with ⟨fs, heq⟩ | ⟨fs, heq⟩
  · rw [heq]
    exact .of_eq rfl rfl
  · have hfaults : Publishing call r { r with faults := fs } := .of_eq rfl rfl
    rw [heq]
    exact hfaults.trans (h _)

theorem publishing_xadd (env : Env) (call : PublishCall) (n : Int) (r : Redis) :
    Publishing call r (xadd call.channel env.settings.channelBufferMaxMessages
      (fun r => ⟨call.messageId, n, call.payload, r.now⟩) r).2 := by
  refine ⟨fun c e he => ?_, fun c e he => ?_, rfl⟩
  · simp only [xadd]
    rcases eq_or_ne c call.channel with rfl | hne
    · rw [Function.update_self]
      exact List.mem_append_left _ he
    · rwa [Function.update_of_ne hne]
  · simp only [xadd] at he
    rcases eq_or_ne c call.channel with rfl | hne
    · rw [Function.update_self] at he
      rcases List.mem_append.mp he with he | he
      · exact Or.inl he
      · rw [List.mem_singleton.mp he]
        exact Or.inr ⟨rfl, rfl, rfl⟩
    · rw [Function.update_of_ne hne] at he
      exact Or.inl he

theorem publishing_xtrim (call : PublishCall) (r : Redis) :
    Publishing call r (xtrim call.channel r).2 := by
  unfold xtrim
  split <;> exact .of_eq rfl rfl

theorem keeps_publishMessage (env : Env) (call : PublishCall) :
    (publishMessage env call.channel call.messageId call.payload).Keeps (fun _ => True)
      (Publishing call) := by
  have hcommand : ∀ {α : Type} {f : Redis → Except Exn α × Redis},
      (∀ r, Publishing call r (f r).2) →
        (command f).Keeps (fun _ => True) (Publishing call) := fun hf =>
    Prog.keeps_atomic (fun r _ => ⟨trivial, publishing_attempt hf r⟩)
  refine (hcommand (fun r => .of_eq rfl rfl)).bind (fun n => ?_)
  refine Prog.Keeps.bind ?_ (fun _ => ?_)
  · exact (hcommand (publishing_xadd env call n)).bind (fun _ => hcommand (publishing_xtrim call))
  · exact (hcommand (fun r => .of_eq rfl rfl)).bind (fun _ => Prog.keeps_ret _)

/-- What is entered stays entered, whatever follows in the call. -/
theorem wp_entered {α : Type} {p : Prog Redis Exn α}
    (hp : p.Keeps (fun _ => True) (Publishing call)) (h : Entered call n r) :
    p.Wp Passes (fun _ r => Entered call n r) r := by
  have hpass : ∀ r r', Entered call n r → Passes r r' → Entered call n r' := fun _ _ he hr =>
    he.mono hr.kept
  have hmove : ∀ r r', Entered call n r → Publishing call r r' → Entered call n r' :=
    fun _ _ he hg => he.mono hg.kept
  exact (Prog.wp_of_moves hpass hmove hp (Prog.Returns.any p) h).mono (fun _ _ hq => hq.1)

/-- XADD enters the message, if it does not fail. -/
theorem wp_append (env : Env) (call : PublishCall) (n : Int) (r : Redis) :
    (appendToChannelBuffer env call.channel call.messageId n call.payload).Wp Passes
      (fun res r' => ∀ u, res = .ok u → Entered call n r') r := by
  refine Prog.wp_bind passes_refl (fun e _ u hu => nomatch hu) (Prog.wp_atomic ?_)
  intro r₁ r₂ _ h₂ u hu
  have hentered : Entered call n r₂ := by
    rcases attempt_cases (xadd call.channel env.settings.channelBufferMaxMessages
        (fun r => ⟨call.messageId, n, call.payload, r.now⟩)) r₁ with ⟨fs, heq⟩ | ⟨fs, heq⟩
    · rw [heq] at hu
      nomatch hu
    · obtain ⟨t, rfl⟩ := h₂
      rw [heq]
      refine ⟨⟨call.messageId, n, call.payload, r₁.now⟩, ?_, rfl, rfl, rfl⟩
      simp [xadd, tick]
  refine (wp_entered (Prog.keeps_atomic (fun r _ => ⟨trivial, ?_⟩)) hentered).mono
    (fun _ _ hq _ _ => hq)
  exact publishing_attempt (publishing_xtrim call) r

theorem wp_publishMessage (env : Env) (call : PublishCall) (r : Redis) :
    (publishMessage env call.channel call.messageId call.payload).Wp Passes
      (fun res r' => Publishing call r r' ∧
        ∀ out, res = .ok out → out.messageId = call.messageId ∧ Entered call out.sequence r') r := by
  refine Prog.Wp.and ?_ ?_
  · have hpass : ∀ a b, Publishing call r a → Passes a b → Publishing call r b :=
      fun _ _ ha hr => ha.trans hr.publishing
    have hmove : ∀ a b, Publishing call r a → Publishing call a b → Publishing call r b :=
      fun _ _ ha hg => ha.trans hg
    exact (Prog.wp_of_moves hpass hmove (keeps_publishMessage env call) (Prog.Returns.any _)
      (.of_eq rfl rfl)).mono (fun _ _ hq => hq.1)
  · have herr : ∀ (e : Exn) (r' : Redis) (out : PublishResult),
        (.error e : Except Exn PublishResult) = .ok out →
          out.messageId = call.messageId ∧ Entered call out.sequence r' := fun _ _ _ h => nomatch h
    refine Prog.wp_bind passes_refl herr (Prog.wp_of_forall (fun _ r n hn => ?_) _ _)
    refine Prog.wp_bind passes_refl herr ((wp_append env call n r).mono (fun _ r hq u hu => ?_))
    refine Prog.wp_bind passes_refl herr ?_
    refine (wp_entered (Prog.keeps_atomic (fun r _ => ⟨trivial, ?_⟩)) (hq u hu)).mono ?_
    · exact publishing_attempt (fun r => .of_eq rfl rfl) r
    · intro _ r he _ _ r' hr out hout
      obtain rfl := Except.ok.inj hout
      exact ⟨rfl, he.mono hr.kept⟩

end Publishing

/-! ## 2. One request -/

/-- A request that was not answered from a record: the entries it adds are its own, the record it may
write stands for its entry, and so does its answer. -/
structure Afresh (call : PublishCall) (r : Redis)
    (answer : Except Exn (Except HttpError PublishResult)) (r' : Redis) : Prop where
  kept : ∀ c, r.appended c ⊆ r'.appended c
  own : ∀ c, ∀ e ∈ r'.appended c, e ∈ r.appended c ∨
    c = call.channel ∧ e.messageId = call.messageId ∧ e.payload = call.payload
  records : ∀ k t, r'.idempotency k = some t → r.idempotency k = some t ∨
    ∃ n, t.val = (call.messageId, n) ∧ Entered call n r'
  answered : ∀ res, answer = .ok (.ok res) →
    res.messageId = call.messageId ∧ Entered call res.sequence r'

section Request

variable {env : Env} {call : PublishCall} {r r' : Redis}
  {answer : Except Exn (Except HttpError PublishResult)}

theorem Publishing.afresh (h : Publishing call r r')
    (hanswer : ∀ res, answer = .ok (.ok res) →
      res.messageId = call.messageId ∧ Entered call res.sequence r') : Afresh call r answer r' :=
  ⟨h.kept, h.own, fun k t hk => Or.inl (by rwa [h.records] at hk), hanswer⟩

/-- Without a 200 there is nothing to answer for. -/
theorem Publishing.unanswered (h : Publishing call r r') (hno : ∀ res, answer ≠ .ok (.ok res)) :
    Afresh call r answer r' := h.afresh (fun res hres => absurd hres (hno res))

/-- The SET of the record, and the answer. -/
theorem wp_record (k : String) {res : PublishResult} (h : Publishing call r r')
    (hid : res.messageId = call.messageId) (hentered : Entered call res.sequence r') :
    ((command (recordIdempotency env k res)).bind fun _ => .ret (.ok res)).Wp Passes
      (Afresh call r) r' := by
  refine Prog.wp_bind_result passes_refl (Prog.wp_atomic ?_)
  intro r₁ r₂ h₁ h₂
  have hpub : Publishing call r r₁ := h.trans h₁.publishing
  rcases attempt_cases (recordIdempotency env k res) r₁ with ⟨fs, heq⟩ | ⟨fs, heq⟩
  · rw [heq] at h₂ ⊢
    refine ⟨(fun _ hb => nomatch hb), fun e _ => Publishing.unanswered ?_ (fun _ h => nomatch h)⟩
    have hfaults : Publishing call r₁ { r₁ with faults := fs } := .of_eq rfl rfl
    exact (hpub.trans hfaults).trans h₂.publishing
  · rw [heq] at h₂ ⊢
    refine ⟨fun _ _ r₃ h₃ => ?_, fun _ he => nomatch he⟩
    obtain ⟨t, rfl⟩ := passes_trans _ _ _ h₂ h₃
    have hin : Entered call res.sequence r₁ := hentered.mono h₁.kept
    refine ⟨hpub.kept, hpub.own, fun k' t' hk => ?_, fun out hout => ?_⟩
    · simp only [recordIdempotency, setIdempotency, tick] at hk
      rcases eq_or_ne k' k with rfl | hne
      · rw [Function.update_self] at hk
        exact Or.inr ⟨res.sequence, (Timed.val_lasting hk).trans (by rw [hid]), hin⟩
      · rw [Function.update_of_ne hne, hpub.records] at hk
        exact Or.inl hk
    · obtain rfl := Except.ok.inj (Except.ok.inj hout)
      exact ⟨hid, hin⟩

theorem wp_publishNew (env : Env) (call : PublishCall) (key : Option String) (r : Redis) :
    (publishNew env key call).Wp Passes (Afresh call r) r := by
  refine Prog.wp_bind_result passes_refl (Prog.wp_try ((wp_publishMessage env call r).mono ?_))
  rintro res r₁ ⟨hpub, hok⟩
  refine ⟨fun b hb => ?_, fun _ he => nomatch he⟩
  obtain rfl := Except.ok.inj hb
  have hend : ∀ {ans : Except Exn (Except HttpError PublishResult)} {r₂ : Redis},
      (∀ res, ans ≠ .ok (.ok res)) → Passes r₁ r₂ → Afresh call r ans r₂ := fun hno hr =>
    (hpub.trans hr.publishing).unanswered hno
  cases res with
  | error e =>
    cases e <;> exact fun r₂ hr => hend (fun _ h => nomatch h) hr
  | ok out =>
    obtain ⟨hid, hentered⟩ := hok out rfl
    cases key with
    | some k => exact wp_record k hpub hid hentered
    | none =>
      intro r₂ hr
      refine (hpub.trans hr.publishing).afresh (fun res hres => ?_)
      obtain rfl := Except.ok.inj (Except.ok.inj hres)
      exact ⟨hid, hentered.mono hr.kept⟩

end Request

/-! ## 3. Requests one after another -/

/-- A request, and the microseconds that pass before each of its commands and after the last. -/
structure Post where
  req : PublishRequest
  ticks : List Nat := []

section Run

variable (env : Env) (authenticate : String → Except String String)

/-- The store when the first command of a request is executed. -/
def Post.arrive (post : Post) (r : Redis) : Redis := r.tick (post.ticks.headD 0)

/-- The answer to a request, and the store after it. -/
def Post.outcome (post : Post) (r : Redis) :
    Except Exn (Except HttpError PublishResult) × Redis :=
  (Http.publish env authenticate post.req).runThrough (post.ticks.map tick) r

/-- One request is served. -/
def serve (r : Redis) (post : Post) : Redis := (post.outcome env authenticate r).2

/-- The record the request finds, if it gets as far as looking for one. -/
def Post.finds (post : Post) (r : Redis) : Option (String × Int) :=
  match checkPublish env authenticate post.req with
  | .error _ => none
  | .ok tenantId => (post.req.key tenantId).bind (fun k =>
      Timed.live (post.arrive r).now ((post.arrive r).idempotency k))

variable {env authenticate}

/-- What a request finds is recorded. -/
theorem Post.finds_record {post : Post} {r : Redis} {m : String} {n : Int}
    (h : post.finds env authenticate r = some (m, n)) :
    ∃ k d, r.idempotency k = some ⟨(m, n), d⟩ := by
  unfold Post.finds at h
  split at h
  · nomatch h
  · obtain ⟨k, -, hlive⟩ := Option.bind_eq_some_iff.mp h
    obtain ⟨⟨v, d⟩, hv, rfl⟩ := Timed.live_val hlive
    exact ⟨k, d, hv⟩

theorem headD_ticks (ticks : List Nat) (r : Redis) :
    (ticks.map tick).headD id r = r.tick (ticks.headD 0) := by
  cases ticks <;> rfl

theorem passes_ticks (ticks : List Nat) : ∀ m ∈ ticks.map tick, ∀ r, Passes r (m r) := by
  intro m hm r
  obtain ⟨t, -, rfl⟩ := List.mem_map.mp hm
  exact ⟨t, rfl⟩

/-- A program that only publishes, run with the clock going. -/
theorem afresh_runThrough {call : PublishCall} {r r₁ : Redis} (h : Publishing call r r₁)
    (key : Option String) (ticks : List Nat) :
    Afresh call r ((publishNew env key call).runThrough (ticks.map tick) r₁).1
      ((publishNew env key call).runThrough (ticks.map tick) r₁).2 := by
  have hrun := Prog.Wp.runThrough passes_refl (passes_ticks ticks)
    (wp_publishNew env call key r₁)
  refine ⟨fun c => List.Subset.trans (h.kept c) (hrun.kept c), fun c e he => ?_,
    fun k t hk => ?_, hrun.answered⟩
  · rcases hrun.own c e he with he | hown
    · exact h.own c e he
    · exact Or.inr hown
  · rcases hrun.records k t hk with hk | hk
    · exact Or.inl (by rwa [h.records] at hk)
    · exact Or.inr hk

/-- The lookup of a request with a key, and what follows it. -/
theorem Post.outcome_keyed {post : Post} {tenantId k : String}
    (hcheck : checkPublish env authenticate post.req = .ok tenantId)
    (hkey : post.req.key tenantId = some k) (r : Redis) :
    post.outcome env authenticate r =
      ((Prog.ofExcept (attempt (getIdempotency k) (post.arrive r)).1).try_.bind
        (afterLookup env k post.req.call)).runThrough (post.ticks.tail.map tick)
        (attempt (getIdempotency k) (post.arrive r)).2 := by
  have hget : ∀ ms : List (Redis → Redis),
      (publishChecked env (some k) post.req.call).runThrough ms r =
        ((Prog.ofExcept (attempt (getIdempotency k) (ms.headD id r)).1).try_.bind
          (afterLookup env k post.req.call)).runThrough ms.tail
          (attempt (getIdempotency k) (ms.headD id r)).2 := fun _ => rfl
  rw [Post.outcome, Http.publish, hcheck]
  simp only [hkey]
  rw [hget, headD_ticks, List.map_tail]
  rfl

/-- **One request.**  It is answered with the record it finds, and nothing else happens; or it is
handled afresh, and is not answered with a 200 if there was a record to find. -/
theorem Post.outcome_cases (post : Post) (r : Redis) :
    (∃ m n, post.finds env authenticate r = some (m, n) ∧
      (post.outcome env authenticate r).1 = .ok (.ok ⟨m, n⟩) ∧
      (serve env authenticate r post).appended = r.appended ∧
      (serve env authenticate r post).idempotency = r.idempotency) ∨
    (Afresh post.req.call r (post.outcome env authenticate r).1 (serve env authenticate r post) ∧
      ∀ res, (post.outcome env authenticate r).1 = .ok (.ok res) →
        post.finds env authenticate r = none) := by
  unfold serve
  cases hcheck : checkPublish env authenticate post.req with
  | error e =>
    have hout : post.outcome env authenticate r = (.ok (.error e), r.tick (post.ticks.headD 0)) := by
      rw [Post.outcome, Http.publish, hcheck]
      exact Prod.ext rfl (headD_ticks post.ticks r)
    rw [hout]
    exact Or.inr ⟨Publishing.unanswered (.of_eq rfl rfl) (fun _ h => nomatch h),
      fun _ h => nomatch h⟩
  | ok tenantId =>
    cases hkey : post.req.key tenantId with
    | none =>
      have hout : post.outcome env authenticate r =
          (publishNew env none post.req.call).runThrough (post.ticks.map tick) r := by
        rw [Post.outcome, Http.publish, hcheck]
        simp only [hkey]
        rfl
      rw [hout]
      refine Or.inr ⟨afresh_runThrough (.of_eq rfl rfl) none post.ticks, fun _ _ => ?_⟩
      rw [Post.finds, hcheck]
      simp only [hkey, Option.bind_none]
    | some k =>
      have hfinds : post.finds env authenticate r =
          Timed.live (post.arrive r).now ((post.arrive r).idempotency k) := by
        rw [Post.finds, hcheck]
        simp only [hkey, Option.bind_some]
      rw [Post.outcome_keyed hcheck hkey, hfinds]
      rcases attempt_cases (getIdempotency k) (post.arrive r) with ⟨fs, heq⟩ | ⟨fs, heq⟩
      · -- the GET fails
        rw [heq]
        refine Or.inr ⟨Publishing.unanswered ?_ (fun _ h => nomatch h), fun _ h => nomatch h⟩
        show Publishing _ r ((post.ticks.tail.map tick).headD id _)
        rw [headD_ticks]
        exact .of_eq rfl rfl
      · rw [heq]
        cases hlive : Timed.live (post.arrive r).now ((post.arrive r).idempotency k) with
        | none =>
          have hget : getIdempotency k { post.arrive r with faults := fs } =
              (.ok none, { post.arrive r with faults := fs }) := by
            simp [getIdempotency, hlive]
          have hpub : Publishing post.req.call r { post.arrive r with faults := fs } := .of_eq rfl rfl
          rw [hget]
          exact Or.inr ⟨afresh_runThrough hpub (some k) post.ticks.tail, fun _ _ => rfl⟩
        | some cached =>
          have hget : getIdempotency k { post.arrive r with faults := fs } =
              (.ok (some ⟨cached.1, cached.2⟩), { post.arrive r with faults := fs }) := by
            simp [getIdempotency, hlive]
          rw [hget]
          refine Or.inl ⟨cached.1, cached.2, rfl, rfl, ?_⟩
          show ((post.ticks.tail.map tick).headD id _).appended = _ ∧
            ((post.ticks.tail.map tick).headD id _).idempotency = _
          rw [headD_ticks]
          exact ⟨rfl, rfl⟩

/-! ## 4. What the store holds after a run -/

/-- Every entry beyond those of the start was appended by a request of the run, and every record
stands for the entry of the request whose id it holds. -/
structure Accounts (r₀ : Redis) (posts : List Post) (r : Redis) : Prop where
  entries : ∀ c, ∀ e ∈ r.appended c, e ∈ r₀.appended c ∨ ∃ post ∈ posts,
    c = post.req.channel ∧ e.messageId = post.req.messageId ∧ e.payload = post.req.payload
  records : ∀ k m n d, r.idempotency k = some ⟨(m, n), d⟩ → ∃ post ∈ posts,
    m = post.req.messageId ∧ Entered post.req.call n r

theorem Accounts.serve {r₀ r : Redis} {posts : List Post} (h : Accounts r₀ posts r) (post : Post) :
    Accounts r₀ (posts ++ [post]) (serve env authenticate r post) := by
  have hkept : ∀ c, r.appended c ⊆ (Relay.serve env authenticate r post).appended c := by
    rcases post.outcome_cases r with ⟨_, _, -, -, happ, -⟩ | ⟨hfresh, -⟩
    · intro c
      rw [happ]
      exact List.Subset.refl _
    · exact hfresh.kept
  have hold : ∀ k m n d, r.idempotency k = some ⟨(m, n), d⟩ → ∃ p ∈ posts ++ [post],
      m = p.req.messageId ∧ Entered p.req.call n (Relay.serve env authenticate r post) := by
    intro k m n d hk
    obtain ⟨p, hp, hid, he⟩ := h.records k m n d hk
    exact ⟨p, List.mem_append_left _ hp, hid, he.mono hkept⟩
  have hentry : ∀ c, ∀ e ∈ r.appended c, e ∈ r₀.appended c ∨ ∃ p ∈ posts ++ [post],
      c = p.req.channel ∧ e.messageId = p.req.messageId ∧ e.payload = p.req.payload := by
    intro c e he
    rcases h.entries c e he with he | ⟨p, hp, heq⟩
    · exact Or.inl he
    · exact Or.inr ⟨p, List.mem_append_left _ hp, heq⟩
  have hlast : post ∈ posts ++ [post] := List.mem_append_right _ (List.mem_singleton.mpr rfl)
  rcases post.outcome_cases r with ⟨_, _, -, -, happ, hrec⟩ | ⟨hfresh, -⟩
  · refine ⟨fun c e he => hentry c e (by rwa [happ] at he), fun k m n d hk => ?_⟩
    exact hold k m n d (by rwa [hrec] at hk)
  · refine ⟨fun c e he => ?_, fun k m n d hk => ?_⟩
    · rcases hfresh.own c e he with he | hown
      · exact hentry c e he
      · exact Or.inr ⟨post, hlast, hown⟩
    · rcases hfresh.records k _ hk with hsame | ⟨n', hnew, he⟩
      · exact hold k m n d hsame
      · obtain ⟨rfl, rfl⟩ := Prod.mk.inj hnew
        exact ⟨post, hlast, rfl, he⟩

theorem accounts_run {r₀ : Redis} (hkeys : ∀ k, r₀.idempotency k = none) (posts : List Post) :
    Accounts r₀ posts (runAll (serve env authenticate) r₀ posts) := by
  induction posts using List.reverseRecOn with
  | nil => exact ⟨fun c e he => Or.inl he, fun k m n d hk => by
      rw [runAll_nil, hkeys] at hk
      nomatch hk⟩
  | append_singleton posts post ih =>
    rw [runAll_append]
    exact ih.serve post

end Run

/-! ## 5. The answers -/

/-- A record that answers a request was written by one for the same channel and the same payload. -/
def SameContent (env : Env) (authenticate : String → Except String String) (before : List Post)
    (r : Redis) (post : Post) : Prop :=
  ∀ m n, post.finds env authenticate r = some (m, n) → ∀ earlier ∈ before,
    earlier.req.messageId = m →
      earlier.req.channel = post.req.channel ∧ earlier.req.payload = post.req.payload

/-- **When an answered request is published.**  Requests are served one after another from a store
without records, with commands failing and time passing.  A 200 to a request names an entry of its
channel with its payload if the record it was answered from, if any, was written by a request for the
same channel and payload; and, as UUIDs are not repeated, only then. -/
theorem answered_is_published_iff (env : Env) (authenticate : String → Except String String)
    (r₀ : Redis) (hkeys : ∀ k, r₀.idempotency k = none) (before : List Post) (post : Post)
    (res : PublishResult)
    (hanswer : (post.outcome env authenticate (runAll (serve env authenticate) r₀ before)).1 =
      .ok (.ok res)) :
    let r := runAll (serve env authenticate) r₀ before
    let published := ∃ e ∈ (serve env authenticate r post).appended post.req.channel,
      e.messageId = res.messageId ∧ e.sequence = res.sequence ∧ e.payload = post.req.payload
    (SameContent env authenticate before r post → published) ∧
    (((before ++ [post]).map (fun p => p.req.messageId)).Nodup →
      (∀ c, ∀ e ∈ r₀.appended c, ∀ p ∈ before ++ [post], e.messageId ≠ p.req.messageId) →
        published → SameContent env authenticate before r post) := by
  intro r published
  have hacc : Accounts r₀ before r := accounts_run hkeys before
  rcases post.outcome_cases r with ⟨m, n, hfinds, hcached, happ, -⟩ | ⟨hfresh, hnone⟩
  · -- answered from the record
    obtain rfl : (⟨m, n⟩ : PublishResult) = res := Except.ok.inj (Except.ok.inj (hcached.symm.trans
      hanswer))
    obtain ⟨k, d, hk⟩ : ∃ k d, r.idempotency k = some ⟨(m, n), d⟩ := post.finds_record hfinds
    obtain ⟨author, hauthor, hid, hentered⟩ := hacc.records k m n d hk
    refine ⟨fun hsame => ?_, fun hnd hstart hpub m' n' hfinds' earlier hearlier heq => ?_⟩
    · obtain ⟨hchannel, hpayload⟩ := hsame m n hfinds author hauthor hid.symm
      obtain ⟨e, he, heid, hseq, hpay⟩ := hentered
      refine ⟨e, ?_, heid.trans hid.symm, hseq, hpay.trans hpayload⟩
      rw [happ, ← hchannel]
      exact he
    · obtain ⟨rfl, rfl⟩ : m' = m ∧ n' = n := by simpa using (hfinds'.symm.trans hfinds)
      obtain ⟨e, he, heid, -, hpay⟩ := hpub
      rw [happ] at he
      rcases hacc.entries _ e he with he | ⟨p, hp, hchannel, hpid, hppay⟩
      · exact absurd (heid.trans heq.symm)
          (hstart _ e he earlier (List.mem_append_left _ hearlier))
      · -- the entry is the one of the request that wrote the record
        have hsame : earlier = p := List.inj_on_of_nodup_map hnd (List.mem_append_left _ hearlier)
          (List.mem_append_left _ hp) (heq.trans (heid.symm.trans hpid))
        rw [hsame]
        exact ⟨hchannel.symm, hppay.symm.trans hpay⟩
  · obtain ⟨hid, e, he, heid, hseq, hpay⟩ := hfresh.answered res hanswer
    refine ⟨fun _ => ⟨e, he, heid.trans hid.symm, hseq, hpay⟩, fun _ _ _ m n hfinds => ?_⟩
    rw [hnone res hanswer] at hfinds
    nomatch hfinds

/-- A request of tenant `a` with the key `i`. -/
def keyedPost (channel : Channel) (messageId : String) : Post :=
  ⟨⟨some "Bearer token", some "i", channel, .obj [], messageId⟩, []⟩

/-- The second request goes to another channel with the key of the first.  It is answered with the
message of the first, and its channel stays empty. -/
theorem reused_key_is_not_published :
    let r := serve (.plain {}) (fun _ => .ok "a") {} (keyedPost "t-a:c" "m1")
    ((keyedPost "t-a:d" "m2").outcome (.plain {}) (fun _ => .ok "a") r).1 = .ok (.ok ⟨"m1", 1⟩) ∧
      (serve (.plain {}) (fun _ => .ok "a") r (keyedPost "t-a:d" "m2")).appended "t-a:d" = [] := by
  exact ⟨rfl, rfl⟩

/-- A retry for the same channel and payload is answered with the message that was published. -/
theorem retry_is_published :
    let r := runAll (serve (.plain {}) (fun _ => .ok "a")) {} [keyedPost "t-a:c" "m1"]
    ∃ e ∈ (serve (.plain {}) (fun _ => .ok "a") r (keyedPost "t-a:c" "m2")).appended "t-a:c",
      e.messageId = "m1" ∧ e.sequence = 1 ∧ e.payload = .obj [] := by
  intro r
  refine (answered_is_published_iff (.plain {}) (fun _ => .ok "a") {} (fun _ => rfl)
    [keyedPost "t-a:c" "m1"] (keyedPost "t-a:c" "m2") ⟨"m1", 1⟩ rfl).1 ?_
  intro m n _ earlier hearlier _
  rw [List.mem_singleton.mp hearlier]
  exact ⟨rfl, rfl⟩

end Relay
