/-
# The publish endpoint

`POST /v1/publish` (`apps/gateway/main.py`): authentication, the checks of the request, and the
idempotent publish.  A request with an `Idempotency-Key` looks the key up, publishes if it is not
there, and records the answer under the key: GET, the four commands of `publish_message`, SET.

`PostStage` names the point such a request has reached; `PostStage.sound` says that the stages are
the program `publish`.
-/
import Mathlib
import Relay.Publish
import Relay.Lib.Stages

namespace Relay

open Redis

/-! ## 1. The endpoint -/

/-- `HTTPException`. -/
structure HttpError where
  status : Nat
  detail : String
  deriving DecidableEq, Repr

/-- A `POST /v1/publish`: its headers, its body, and the UUID `publish_message` will draw for it. -/
structure PublishRequest where
  authorization : Option String
  idempotencyKey : Option String
  channel : Channel
  payload : Json
  messageId : String

/-- The call of `publish_message` a request makes. -/
def PublishRequest.call (req : PublishRequest) : PublishCall :=
  ⟨req.channel, req.messageId, req.payload⟩

/-- `RedisKeys.idempotency`. -/
def RedisKeys.idempotency (tenantId key : String) : String :=
  "relay:idempotency:" ++ tenantId ++ ":" ++ key

/-- The answer to a request that met a `RedisConnectionError`. -/
def redisUnavailable : HttpError := ⟨503, "REDIS_UNAVAILABLE"⟩

section Endpoint

variable (env : Env) (authenticate : String → Except String String)

/-- `_auth_http`; `authenticate` is `authenticate_token`: the tenant of an active key, or the text of
the `AuthenticationError`. -/
def authHttp (authorization : Option String) : Except HttpError String :=
  match authorization with
  | none => .error ⟨401, "missing bearer token"⟩
  | some header =>
    if "Bearer ".toList.isPrefixOf header.toList then
      match authenticate (String.ofList (header.toList.drop "Bearer ".length)) with
      | .ok tenantId => .ok tenantId
      | .error text => .error ⟨401, text⟩
    else .error ⟨401, "missing bearer token"⟩

/-- What `publish` checks before it turns to Redis; the result is the tenant. -/
def checkPublish (req : PublishRequest) : Except HttpError String :=
  match authHttp authenticate req.authorization with
  | .error e => .error e
  | .ok tenantId =>
    match validateChannelName req.channel with
    | .error text => .error ⟨400, text⟩
    | .ok _ =>
      if channelBelongsToTenant req.channel tenantId then
        if env.settings.maxMessageSizeBytes < env.payloadSize req.payload then
          .error ⟨413, "MESSAGE_TOO_LARGE"⟩
        else .ok tenantId
      else .error ⟨403, "CHANNEL_FORBIDDEN"⟩

/-- `if idempotency_key`: an empty header counts as none. -/
def PublishRequest.key (req : PublishRequest) (tenantId : String) : Option String :=
  match req.idempotencyKey with
  | some k => if k = "" then none else some (RedisKeys.idempotency tenantId k)
  | none => none

/-- The GET of the idempotency key. -/
def getIdempotency (key : String) (r : Redis) : Except Exn (Option PublishResult) × Redis :=
  (.ok ((Timed.live r.now (r.idempotency key)).map (fun d => ⟨d.1, d.2⟩)), r)

/-- The SET of the idempotency key. -/
def recordIdempotency (key : String) (res : PublishResult) (r : Redis) : Except Exn Unit × Redis :=
  (.ok (), r.setIdempotency key
    (Timed.lasting r.now env.settings.idempotencyTtlSeconds (res.messageId, res.sequence)))

/-- What follows `publish_message`: a connection error is answered, the result is recorded.  Nothing
catches a failure of the SET. -/
def afterPublish (key : Option String) :
    Except Exn PublishResult → Prog Redis Exn (Except HttpError PublishResult)
  | .error .redis => .ret (.error redisUnavailable)
  | .error e => .raise e
  | .ok res =>
    match key with
    | some k => do
      command (recordIdempotency env k res)
      return .ok res
    | none => .ret (.ok res)

/-- The publish of a request whose key, if it has one, was not found. -/
def publishNew (key : Option String) (call : PublishCall) :
    Prog Redis Exn (Except HttpError PublishResult) :=
  (publishMessage env call.channel call.messageId call.payload).try_.bind (afterPublish env key)

/-- What follows the GET. -/
def afterLookup (key : String) (call : PublishCall) :
    Except Exn (Option PublishResult) → Prog Redis Exn (Except HttpError PublishResult)
  | .error .redis => .ret (.error redisUnavailable)
  | .error e => .raise e
  | .ok (some cached) => .ret (.ok cached)
  | .ok none => publishNew env (some key) call

/-- The part of `publish` that talks to Redis. -/
def publishChecked (key : Option String) (call : PublishCall) :
    Prog Redis Exn (Except HttpError PublishResult) :=
  match key with
  | some k => (command (getIdempotency k)).try_.bind (afterLookup env k call)
  | none => publishNew env none call

/-- `publish`: the answer, or an exception that becomes a 500. -/
def Http.publish (req : PublishRequest) : Prog Redis Exn (Except HttpError PublishResult) :=
  match checkPublish env authenticate req with
  | .error e => .ret (.error e)
  | .ok tenantId => publishChecked env (req.key tenantId) req.call

/-- The tenant of a request is the one of its token. -/
theorem authHttp_ok {authenticate : String → Except String String} {authorization : Option String}
    {tenantId : String} (h : authHttp authenticate authorization = .ok tenantId) :
    ∃ token, authenticate token = .ok tenantId := by
  unfold authHttp at h
  split at h
  · nomatch h
  · split at h
    · split at h
      · rename_i header _ t ht
        obtain rfl := Except.ok.inj h
        exact ⟨_, ht⟩
      · nomatch h
    · nomatch h

/-- A request that passes the checks is the tenant's, and so is its channel. -/
theorem checkPublish_ok {req : PublishRequest} {tenantId : String}
    (h : checkPublish env authenticate req = .ok tenantId) :
    authHttp authenticate req.authorization = .ok tenantId ∧
      validateChannelName req.channel = .ok req.channel ∧
      channelBelongsToTenant req.channel tenantId = true ∧
      env.payloadSize req.payload ≤ env.settings.maxMessageSizeBytes := by
  unfold checkPublish at h
  cases ha : authHttp authenticate req.authorization with
  | error e => rw [ha] at h; nomatch h
  | ok t =>
    rw [ha] at h
    cases hv : validateChannelName req.channel with
    | error text => rw [hv] at h; nomatch h
    | ok c =>
      rw [hv] at h
      simp only at h
      split_ifs at h with hown hsize
      obtain rfl := Except.ok.inj h
      exact ⟨rfl, by rw [← validateChannelName_eq hv], hown, not_lt.mp hsize⟩

end Endpoint

/-! ## 2. The stages of a request with a key -/

/-- The entry of a call is in the stream. -/
def Stage.appended : Stage → Bool
  | stored _ | trimmed _ | done _ => true
  | _ => false

/-- How far a request has come. -/
inductive PostStage
  /-- The checks refused it. -/
  | rejected (e : HttpError)
  /-- Before the GET. -/
  | arrived
  /-- The key was not found; `done` is the point before the SET. -/
  | publishing (st : Stage)
  /-- Answered with 200. -/
  | answered (res : PublishResult)
  /-- Answered with 503, with its entry appended or not. -/
  | unavailable (appended : Bool)
  /-- An exception that nothing caught: 500. -/
  | crashed (e : Exn)

namespace PostStage

/-- The answer to an exception. -/
def ofExn (appended : Bool) : Exn → PostStage
  | .redis => unavailable appended
  | e => crashed e

/-- Where a publish that has executed a command stands; `before` is where it stood. -/
def ofStage (before : Stage) : Stage → PostStage
  | .failed => unavailable before.appended
  | st => publishing st

section

variable (env : Env) (key : String)

/-- The rest of the program from a stage on. -/
def prog : PublishCall × PostStage → Prog Redis Exn (Except HttpError PublishResult)
  | (_, rejected e) => .ret (.error e)
  | (call, arrived) => publishChecked env (some key) call
  | (call, publishing st) => (st.prog env call).try_.bind (afterPublish env (some key))
  | (_, answered res) => .ret (.ok res)
  | (_, unavailable _) => .ret (.error redisUnavailable)
  | (_, crashed e) => .raise e

/-- The next command of a request. -/
def next (s : PublishCall × PostStage) (r : Redis) : Redis × (PublishCall × PostStage) :=
  match s with
  | (call, arrived) =>
    Stages.settle (fun cached => (call, (cached.map answered).getD (publishing .start)))
      (fun e => (call, ofExn false e)) (attempt (getIdempotency key) r)
  | (call, publishing (.done n)) =>
    Stages.settle (fun _ => (call, answered ⟨call.messageId, n⟩)) (fun e => (call, crashed e))
      (attempt (recordIdempotency env key ⟨call.messageId, n⟩) r)
  | (call, publishing st) =>
    ((st.advance env call r).1, call,
      if st.Running then ofStage st (st.advance env call r).2 else publishing st)
  | s => (r, s)

theorem prog_ofStage (call : PublishCall) (before st : Stage) :
    prog env key (call, ofStage before st) =
      (st.prog env call).try_.bind (afterPublish env (some key)) := by
  cases st <;> rfl

theorem next_running (call : PublishCall) {st : Stage} (h : st.Running) (r : Redis) :
    next env key (call, publishing st) r =
      ((st.advance env call r).1, call, ofStage st (st.advance env call r).2) := by
  cases st with
  | done n => exact absurd h id
  | failed => exact absurd h id
  | _ => rfl

theorem sound : Stages.Sound (prog env key) (next env key) := by
  rintro ⟨call, st⟩
  cases st with
  | rejected e => exact Stages.sound_ret rfl (fun _ => rfl)
  | arrived =>
    refine Stages.sound_try (fun cached => (call, (cached.map answered).getD (publishing .start)))
      (fun e => (call, ofExn false e)) rfl ?_ ?_ (fun _ => rfl)
    · rintro (_ | cached) <;> rfl
    · rintro (_ | _) <;> rfl
  | publishing st =>
    by_cases hr : st.Running
    · obtain ⟨f, k, hseg, hfk⟩ := st.prog_running env call hr
      refine Or.inl ⟨f, fun s => (k s).try_.bind (afterPublish env (some key)), ?_, fun r => ?_⟩
      · simp only [prog, hseg]
        rfl
      · rw [next_running env key call hr, prog_ofStage, ← (hfk r).2]
        exact ⟨(hfk r).1, rfl⟩
    · cases st with
      | done n =>
        exact Stages.sound_atomic (fun _ => (call, answered ⟨call.messageId, n⟩))
          (fun e => (call, crashed e)) rfl (fun _ => rfl) (fun _ => rfl) (fun _ => rfl)
      | failed => exact Stages.sound_ret rfl (fun _ => rfl)
      | start => exact absurd trivial hr
      | numbered n => exact absurd trivial hr
      | stored n => exact absurd trivial hr
      | trimmed n => exact absurd trivial hr
  | answered res => exact Stages.sound_ret rfl (fun _ => rfl)
  | unavailable b => exact Stages.sound_ret rfl (fun _ => rfl)
  | crashed e => exact Stages.sound_raise rfl (fun _ => rfl)

end

/-- Where a request begins. -/
def ofRequest (env : Env) (authenticate : String → Except String String) (req : PublishRequest) :
    PublishCall × PostStage :=
  (req.call, match checkPublish env authenticate req with
    | .error e => rejected e
    | .ok _ => arrived)

/-- The program of a request of the tenant that carries the key. -/
theorem prog_ofRequest {env : Env} {authenticate : String → Except String String}
    {req : PublishRequest} {tenantId k : String}
    (htenant : ∀ t, checkPublish env authenticate req = .ok t → t = tenantId)
    (hkey : req.idempotencyKey = some k) (hne : k ≠ "") :
    prog env (RedisKeys.idempotency tenantId k) (ofRequest env authenticate req) =
      Http.publish env authenticate req := by
  unfold ofRequest Http.publish
  cases hc : checkPublish env authenticate req with
  | error e => rfl
  | ok t =>
    obtain rfl := htenant t hc
    simp only [PublishRequest.key, hkey, if_neg hne]
    rfl

end PostStage

end Relay
