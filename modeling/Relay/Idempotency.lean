/-
# At most one message per idempotency key

Requests of one tenant with one `Idempotency-Key` and one channel, on any nodes, their commands
interleaved in any way and any command allowed to fail.

The lookup of the key and its recording are separated by the whole publish.  Two requests that both
look before either has recorded publish twice.  So does a retry after a failure between the XADD and
the SET, which is the use the endpoint's 503 asks for: the first request left an entry in the stream
and no trace under the key.

`published_once` says that these are the only ways.  A request is *unsettled* while it is between
its GET and its SET, and for good if it fails after its XADD; if every GET that succeeds and finds
nothing is executed at a moment with no unsettled request, at most one entry is appended and all 200
answers agree.
-/
import Mathlib
import Relay.PublishApi

namespace Relay

open Redis Stages

/-! ## 1. Unsettled requests -/

namespace PostStage

/-- The request has looked the key up in vain, and its answer is not recorded: it may still append
an entry, or it has. -/
def unsettled : PostStage → Bool
  | publishing .failed => false
  | publishing _ => true
  | unavailable appended => appended
  | crashed _ => true
  | _ => false

/-- The request has appended an entry, and its answer is not recorded. -/
def appended : PostStage → Bool
  | publishing st => st.appended
  | unavailable b => b
  | crashed _ => true
  | _ => false

end PostStage

/-- The answer recorded under a key. -/
def recorded (key : String) (r : Redis) : Option PublishResult :=
  (Timed.live r.now (r.idempotency key)).map (fun d => ⟨d.1, d.2⟩)

/-- The requests as programs. -/
def postPool (env : Env) (authenticate : String → Except String String) (r : Redis)
    (reqs : List PublishRequest) : Pool Redis Exn (Except HttpError PublishResult) :=
  ⟨r, reqs.map (Http.publish env authenticate)⟩

/-- The requests by stages. -/
def postTasks (env : Env) (authenticate : String → Except String String) (r : Redis)
    (reqs : List PublishRequest) : Tasks Redis (PublishCall × PostStage) :=
  ⟨r, reqs.map (PostStage.ofRequest env authenticate)⟩

/-- A GET that succeeds and finds nothing is executed while no request is unsettled. -/
def LooksAlone (key : String) (t : Tasks Redis (PublishCall × PostStage)) (i : Nat) : Prop :=
  match t.stages[i]? with
  | some (_, .arrived) =>
    t.state.faults.head? = some true ∨ (recorded key t.state).isSome = true ∨
      ∀ s ∈ t.stages, s.2.unsettled = false
  | _ => True

instance (key : String) (t : Tasks Redis (PublishCall × PostStage)) (i : Nat) :
    Decidable (LooksAlone key t i) := by
  unfold LooksAlone
  split <;> infer_instance

/-! ## 2. The invariant -/

/-- At most one request is unsettled or the key is recorded; there is one entry for whichever it is;
every 200 answer is the recorded one. -/
structure Once (key : String) (channel : Channel) (base : Nat)
    (t : Tasks Redis (PublishCall × PostStage)) : Prop where
  onChannel : ∀ s ∈ t.stages, s.1.channel = channel
  single : t.stages.countP (fun s => s.2.unsettled) + (recorded key t.state).isSome.toNat ≤ 1
  entries : (t.state.appended channel).length =
    base + t.stages.countP (fun s => s.2.appended) + (recorded key t.state).isSome.toNat
  answers : ∀ s ∈ t.stages, ∀ res, s.2 = .answered res → recorded key t.state = some res

section Once

variable {env : Env} {key : String} {channel : Channel} {base : Nat} {r r' : Redis}
  {before after : List (PublishCall × PostStage)} {call : PublishCall} {st st' : PostStage}

/-- An appended entry is that of an unsettled request, or of the recorded one. -/
theorem unsettled_of_appended (st : PostStage) (h : st.appended = true) : st.unsettled = true := by
  cases st with
  | publishing s => cases s <;> first | rfl | exact absurd h (by decide)
  | unavailable b => exact h
  | crashed e => rfl
  | _ => nomatch h

/-- The stream holds at most one entry of the requests. -/
theorem Once.appended_le {t : Tasks Redis (PublishCall × PostStage)} (h : Once key channel base t) :
    (t.state.appended channel).length ≤ base + 1 := by
  have hle : t.stages.countP (fun s => s.2.appended) ≤ t.stages.countP (fun s => s.2.unsettled) :=
    List.countP_mono_left (fun s _ hs => unsettled_of_appended s.2 hs)
  have := h.single
  have := h.entries
  omega

/-- A step of one request that leaves the record alone: the entries follow the request's own. -/
theorem Once.move (h : Once key channel base ⟨r, before ++ (call, st) :: after⟩)
    (hrec : recorded key r' = recorded key r)
    (hle : st'.unsettled = true → st.unsettled = true ∨
      (recorded key r).isSome = false ∧ ∀ s ∈ before ++ (call, st) :: after, s.2.unsettled = false)
    (hentries : (r'.appended channel).length + st.appended.toNat =
      (r.appended channel).length + st'.appended.toNat)
    (hans : ∀ res, st' = .answered res → recorded key r = some res) :
    Once key channel base ⟨r', before ++ (call, st') :: after⟩ := by
  have hsingle := h.single
  have hents := h.entries
  simp only [countP_around] at hsingle hents
  refine ⟨?_, ?_, ?_, ?_⟩
  · have hch := h.onChannel
    simpa only [List.forall_mem_append, List.forall_mem_cons] using hch
  · simp only [countP_around, hrec]
    cases hu : st'.unsettled with
    | false =>
      rw [Bool.toNat_false]
      omega
    | true =>
      rcases hle hu with hold | ⟨hnone, hall⟩
      · rwa [hold] at hsingle
      · -- nobody was unsettled and nothing recorded, so this request is the first
        have hzero : (before ++ (call, st) :: after).countP (fun s => s.2.unsettled) = 0 :=
          List.countP_eq_zero.mpr (fun s hs => by rw [hall s hs]; exact Bool.false_ne_true)
        rw [countP_around] at hzero
        rw [hnone, Bool.toNat_true, Bool.toNat_false]
        omega
  · simp only [countP_around, hrec]
    omega
  · have hans' := h.answers
    simp only [List.forall_mem_append, List.forall_mem_cons, hrec] at hans' ⊢
    exact ⟨hans'.1, hans, hans'.2.2⟩

/-- The SET of a request: it was the only unsettled one, and nothing had been recorded. -/
theorem Once.record {n : Int}
    (h : Once key channel base ⟨r, before ++ (call, .publishing (.done n)) :: after⟩)
    (hrec : recorded key r' = some ⟨call.messageId, n⟩)
    (hentries : r'.appended channel = r.appended channel) :
    Once key channel base ⟨r', before ++ (call, .answered ⟨call.messageId, n⟩) :: after⟩ := by
  have hsingle := h.single
  have hents := h.entries
  have hone : (PostStage.publishing (.done n)).unsettled.toNat = 1 ∧
    (PostStage.publishing (.done n)).appended.toNat = 1 := ⟨rfl, rfl⟩
  have hzero : (PostStage.answered ⟨call.messageId, n⟩).unsettled.toNat = 0 ∧
    (PostStage.answered ⟨call.messageId, n⟩).appended.toNat = 0 := ⟨rfl, rfl⟩
  simp only [countP_around, hone] at hsingle hents
  have hnone : (recorded key r).isSome.toNat = 0 := by omega
  refine ⟨?_, ?_, ?_, ?_⟩
  · have hch := h.onChannel
    simpa only [List.forall_mem_append, List.forall_mem_cons] using hch
  · simp only [countP_around, hzero, hrec, Option.isSome_some, Bool.toNat_true]
    omega
  · simp only [countP_around, hzero, hrec, Option.isSome_some, Bool.toNat_true, hentries]
    omega
  · have hold : ∀ res, recorded key r ≠ some res := by
      intro res hres
      rw [hres] at hnone
      nomatch hnone
    have hans := h.answers
    simp only [List.forall_mem_append, List.forall_mem_cons] at hans ⊢
    refine ⟨fun s hs res hres => absurd (hans.1 s hs res hres) (hold res), ?_,
      fun s hs res hres => absurd (hans.2.2 s hs res hres) (hold res)⟩
    intro res hres
    rw [hrec, ← PostStage.answered.inj hres]

/-! ## 3. Steps and runs -/

/-- A command of `publish_message` does not touch the record, and appends one entry if it is the
XADD. -/
theorem advance_appends (env : Env) (call : PublishCall) (r : Redis) (key : String) {st : Stage}
    (hr : st.Running) :
    recorded key (st.advance env call r).1 = recorded key r ∧
      (((st.advance env call r).1.appended call.channel).length + st.appended.toNat =
        (r.appended call.channel).length +
          (PostStage.ofStage st (st.advance env call r).2).appended.toNat) := by
  have hfire : ∀ fs, recorded key (Stage.fire env call { r with faults := fs } st).1 = recorded key r ∧
      (((Stage.fire env call { r with faults := fs } st).1.appended call.channel).length +
          st.appended.toNat =
        (r.appended call.channel).length + (PostStage.ofStage st
          (Stage.fire env call { r with faults := fs } st).2).appended.toNat) := by
    intro fs
    cases st with
    | done n => exact absurd hr id
    | failed => exact absurd hr id
    | numbered n =>
      refine ⟨rfl, ?_⟩
      simp [Stage.fire, xadd, PostStage.ofStage, PostStage.appended, Stage.appended]
    | start => exact ⟨rfl, rfl⟩
    | stored n =>
      -- XTRIM, with or without something to trim
      simp only [Stage.fire, xtrim]
      split <;> exact ⟨rfl, rfl⟩
    | trimmed n => exact ⟨rfl, rfl⟩
  unfold Stage.advance
  rw [if_pos hr]
  split
  · exact ⟨rfl, rfl⟩
  · exact hfire _
  · rename_i hf
    have := hfire []
    rwa [show ({ r with faults := [] } : Redis) = r by rw [← hf]] at this

theorem recorded_recordIdempotency (httl : 0 < env.settings.idempotencyTtlSeconds)
    (res : PublishResult) : recorded key (recordIdempotency env key res r).2 = some res := by
  simp [recorded, recordIdempotency, setIdempotency, Timed.live_lasting httl]

/-- **One step.** -/
theorem once_step (httl : 0 < env.settings.idempotencyTtlSeconds)
    {t : Tasks Redis (PublishCall × PostStage)} (h : Once key channel base t) {i : Nat}
    (hi : LooksAlone key t i) : Once key channel base (t.step (PostStage.next env key) i) := by
  obtain ⟨r, stages⟩ := t
  rcases Tasks.step_cases (PostStage.next env key) ⟨r, stages⟩ i with
    ⟨_, heq⟩ | ⟨before, ⟨call, st⟩, after, hst, hget, heq⟩
  · rw [heq]
    exact h
  simp only at hst
  subst hst
  have hch : call.channel = channel := h.onChannel (call, st) (by simp)
  rw [heq]
  cases st with
  | rejected e => exact h
  | answered res => exact h
  | unavailable b => exact h
  | crashed e => exact h
  | arrived =>
    simp only [PostStage.next]
    rcases attempt_cases (getIdempotency key) r with ⟨fs, hrun⟩ | ⟨fs, hrun⟩
    · rw [hrun]
      exact h.move rfl (fun hu => nomatch hu) rfl (fun res hres => nomatch hres)
    · rw [hrun]
      show Once key channel base ⟨{ r with faults := fs },
        before ++ (call, ((recorded key r).map PostStage.answered).getD (.publishing .start)) :: after⟩
      cases hrec : recorded key r with
      | some res =>
        refine h.move rfl (fun hu => nomatch hu) rfl (fun res' hres => ?_)
        rw [hrec, ← PostStage.answered.inj hres]
      | none =>
        refine h.move rfl (fun _ => Or.inr ⟨by rw [hrec]; rfl, ?_⟩) rfl (fun res hres => nomatch hres)
        unfold LooksAlone at hi
        rw [hget] at hi
        have hanswered : r.faults.head? ≠ some true := by
          intro hfail
          have := (attempt_failing (getIdempotency key) hfail).symm.trans hrun
          exact absurd (congrArg Prod.fst this) (by simp [getIdempotency])
        refine (hi.resolve_left hanswered).resolve_left ?_
        rw [hrec]
        decide
  | publishing st =>
    by_cases hr : st.Running
    · obtain ⟨hrec, hentries⟩ := advance_appends env call r key hr
      rw [PostStage.next_running env key call hr]
      refine h.move hrec (fun _ => Or.inl ?_) (hch ▸ hentries) (fun res hres => ?_)
      · cases st <;> first | rfl | exact absurd hr id
      · unfold PostStage.ofStage at hres
        split at hres <;> nomatch hres
    · cases st with
      | done n =>
        simp only [PostStage.next]
        rcases attempt_cases (recordIdempotency env key ⟨call.messageId, n⟩) r with
          ⟨fs, hrun⟩ | ⟨fs, hrun⟩
        · rw [hrun]
          exact h.move rfl (fun _ => Or.inl rfl) rfl (fun res hres => nomatch hres)
        · rw [hrun]
          exact h.record (recorded_recordIdempotency httl _) rfl
      | failed => exact h
      | start => exact absurd trivial hr
      | numbered n => exact absurd trivial hr
      | stored n => exact absurd trivial hr
      | trimmed n => exact absurd trivial hr

theorem once_start (env : Env) (authenticate : String → Except String String)
    (hempty : recorded key r = none) {reqs : List PublishRequest}
    (hchannel : ∀ req ∈ reqs, req.channel = channel) :
    Once key channel (r.appended channel).length (postTasks env authenticate r reqs) := by
  -- a request begins before its GET or has been refused
  have hstart : ∀ s ∈ (postTasks env authenticate r reqs).stages, s.1.channel = channel ∧
      s.2.unsettled = false ∧ s.2.appended = false ∧ ∀ res, s.2 ≠ .answered res := by
    intro s hs
    obtain ⟨req, hreq, rfl⟩ := List.mem_map.mp hs
    refine ⟨hchannel req hreq, ?_⟩
    unfold PostStage.ofRequest
    split <;> exact ⟨rfl, rfl, fun res h => nomatch h⟩
  refine ⟨fun s hs => (hstart s hs).1, ?_, ?_, fun s hs res h => absurd h ((hstart s hs).2.2.2 res)⟩
  · have hzero : (postTasks env authenticate r reqs).stages.countP (fun s => s.2.unsettled) = 0 :=
      List.countP_eq_zero.mpr (fun s hs => by rw [(hstart s hs).2.1]; exact Bool.false_ne_true)
    rw [hzero]
    exact le_trans (Nat.zero_add _).le (Bool.toNat_le _)
  · have hzero : (postTasks env authenticate r reqs).stages.countP (fun s => s.2.appended) = 0 :=
      List.countP_eq_zero.mpr (fun s hs => by rw [(hstart s hs).2.2.1]; exact Bool.false_ne_true)
    rw [hzero, show recorded key (postTasks env authenticate r reqs).state = none from hempty]
    rfl

/-- A 200 answer is the one recorded. -/
theorem Once.answer_recorded {t : Tasks Redis (PublishCall × PostStage)}
    (h : Once key channel base t) {q : Prog Redis Exn (Except HttpError PublishResult)}
    {res : PublishResult} (hq : q ∈ (t.toPool (PostStage.prog env key)).tasks)
    (hres : q.result? = some (.ok res)) : recorded key t.state = some res := by
  obtain ⟨⟨call, st⟩, hs, rfl⟩ := List.mem_map.mp hq
  refine h.answers _ hs res ?_
  cases st with
  | rejected e => nomatch hres
  | arrived => nomatch hres
  | publishing st => cases st <;> nomatch hres
  | answered res' => rw [Except.ok.inj (Option.some.inj hres)]
  | unavailable b => nomatch hres
  | crashed e => nomatch hres

end Once

/-- **When a key stands for one message.**  Requests that carry one key and one channel, none of
which authenticates as another tenant, run in any interleaving with any commands failing, within the
lifetime of the key.  If every GET that succeeds and finds nothing is executed while no request is
unsettled, then at most one entry is appended and all 200 answers are the same. -/
theorem published_once (env : Env) (httl : 0 < env.settings.idempotencyTtlSeconds)
    (authenticate : String → Except String String) (tenantId k : String) (hne : k ≠ "")
    (channel : Channel) (r : Redis) (hempty : recorded (RedisKeys.idempotency tenantId k) r = none)
    (reqs : List PublishRequest)
    (htenant : ∀ req ∈ reqs, ∀ t, checkPublish env authenticate req = .ok t → t = tenantId)
    (hkey : ∀ req ∈ reqs, req.idempotencyKey = some k)
    (hchannel : ∀ req ∈ reqs, req.channel = channel) (sched : List Nat)
    (hsched : Along (Tasks.step (PostStage.next env (RedisKeys.idempotency tenantId k)))
      (LooksAlone (RedisKeys.idempotency tenantId k)) (postTasks env authenticate r reqs) sched) :
    let p := (postPool env authenticate r reqs).exec sched
    (p.state.appended channel).length ≤ (r.appended channel).length + 1 ∧
      ∀ q ∈ p.tasks, ∀ q' ∈ p.tasks, ∀ res res', q.result? = some (.ok res) →
        q'.result? = some (.ok res') → res = res' := by
  intro p
  set key := RedisKeys.idempotency tenantId k with hkeydef
  have hpool : postPool env authenticate r reqs =
      (postTasks env authenticate r reqs).toPool (PostStage.prog env key) := by
    simp only [postPool, postTasks, Tasks.toPool, List.map_map, Pool.mk.injEq, true_and]
    refine List.map_congr_left (fun req hreq => ?_)
    exact (PostStage.prog_ofRequest (htenant req hreq) (hkey req hreq) hne).symm
  have hrun : Once key channel (r.appended channel).length
      (runAll (Tasks.step (PostStage.next env key)) (postTasks env authenticate r reqs) sched) :=
    @runAll_invariant _ _ (Tasks.step (PostStage.next env key)) (LooksAlone key)
      (Once key channel (r.appended channel).length) (fun _ _ h hi => once_step httl h hi) sched _
      (once_start env authenticate hempty hchannel) hsched
  have hp : p = (runAll (Tasks.step (PostStage.next env key))
      (postTasks env authenticate r reqs) sched).toPool (PostStage.prog env key) := by
    rw [← Tasks.exec_pool (PostStage.sound env key), ← hpool]
  rw [hp]
  refine ⟨hrun.appended_le, fun q hq q' hq' res res' hres hres' => ?_⟩
  exact Option.some.inj ((hrun.answer_recorded hq hres).symm.trans (hrun.answer_recorded hq' hres'))

/-! ## 4. Two requests with one key -/

/-- A request of tenant `a` with the key `i`. -/
def keyedRequest (messageId : String) : PublishRequest :=
  ⟨some "Bearer token", some "i", "t-a:c", .null, messageId⟩

/-- Two such requests. -/
def keyedPool (r : Redis) : Pool Redis Exn (Except HttpError PublishResult) :=
  postPool (.plain {}) (fun _ => .ok "a") r [keyedRequest "m1", keyedRequest "m2"]

/-- Both requests look the key up before either has recorded its answer. -/
def lookTogether : Pool Redis Exn (Except HttpError PublishResult) :=
  (keyedPool {}).exec [0, 1, 0, 0, 0, 0, 0, 1, 1, 1, 1, 1]

/-- The PUBLISH of the first request fails, and the second is its retry. -/
def retryAfterPublish : Pool Redis Exn (Except HttpError PublishResult) :=
  (keyedPool { faults := [false, false, false, false, true] }).exec
    [0, 0, 0, 0, 0, 1, 1, 1, 1, 1, 1]

/-- Requests that look together append two entries and get two different 200 answers.  A retry after
a 503 that came from the PUBLISH appends a second entry. -/
theorem retried_publish_appends_twice :
    (lookTogether.state.appended "t-a:c").length = 2 ∧
      lookTogether.tasks.map Prog.result? = [some (.ok ⟨"m1", 1⟩), some (.ok ⟨"m2", 2⟩)] ∧
      (retryAfterPublish.state.appended "t-a:c").length = 2 ∧
      retryAfterPublish.tasks.map Prog.result? =
        [some (.error redisUnavailable), some (.ok ⟨"m2", 2⟩)] := by
  decide +kernel

/-- The first request fails at its XADD, and its retry publishes. -/
theorem retry_before_append_is_single :
    let p := (keyedPool { faults := [false, false, true] }).exec [0, 0, 0, 1, 1, 1, 1, 1, 1]
    (p.state.appended "t-a:c").length ≤ 0 + 1 ∧
      p.tasks.map Prog.result? = [some (.error redisUnavailable), some (.ok ⟨"m2", 2⟩)] := by
  have htoken : authHttp (fun _ => .ok "a") (some "Bearer token") = .ok "a" := by decide +kernel
  have h := published_once (.plain {}) (by decide) (fun _ => .ok "a") "a" "i" (by decide) "t-a:c"
    { faults := [false, false, true] } rfl [keyedRequest "m1", keyedRequest "m2"]
    (fun req hreq t ht => by
      have hauth := (checkPublish_ok _ _ ht).1
      rcases List.mem_pair.mp hreq with rfl | rfl <;>
        exact Except.ok.inj (hauth.symm.trans htoken))
    (by decide) (by decide) [0, 0, 0, 1, 1, 1, 1, 1, 1] (by decide +kernel)
  exact ⟨h.1, by decide +kernel⟩

end Relay
