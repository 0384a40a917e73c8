/-
# Redis as the gateway uses it

The shared store, one field for each family of keys of `RedisKeys`
(`packages/redis/client.py`), and the functions of the gateway that touch nothing else:
`sessions/manager.py` and `presence/tracker.py`.  Presence keys are kept as the strings the code
builds, since user ids are free text.

A command is atomic and may fail.  `faults` says, for each coming command, whether it fails; the
theorems quantify over it, so any pattern of failures is covered, and the empty list is a Redis
that stays up.  A command that fails has not been executed.  The client sends a command again
after a connection error or a timeout (`Retry` in `get_redis`); that is part of the one command
here, and a command that Redis executes although its answer is lost, or executes twice, is not
modelled.

Keys with a TTL carry a deadline on the clock `now` (in microseconds) and count as absent once it
has passed: at the deadline itself Redis still finds the key.

Age trimming of a stream depends on the clock and on how Redis groups entries in nodes.
`ageTrims` says, for each coming XTRIM, how many of the oldest entries it finds past retention.

`appended`, `published` and `ranged` are bookkeeping of the model: everything ever XADDed to a
channel's stream, everything ever PUBLISHed on its topic, and the answers to the XRANGEs of the
stream, each in execution order.
-/
import Mathlib
import Relay.Frames
import Relay.Lib.Prog

namespace Relay

/-! ## 1. The store -/

/-- A value with an optional expiry time. -/
structure Timed (α : Type) where
  val : α
  deadline : Option Nat := none

/-- The value at a key, unless it is absent or expired. -/
def Timed.live {α : Type} (now : Nat) : Option (Timed α) → Option α
  | none => none
  | some ⟨v, none⟩ => some v
  | some ⟨v, some d⟩ => if now ≤ d then some v else none

/-- A value stored with a TTL in seconds.  A TTL of 0 stores none: EXPIRE takes it as a deletion,
and SET refuses it. -/
def Timed.lasting {α : Type} (now ttl : Nat) (v : α) : Option (Timed α) :=
  if ttl = 0 then none else some ⟨v, some (now + ttl * 1000000)⟩

theorem Timed.lasting_pos {α : Type} {now ttl : Nat} (httl : 0 < ttl) (v : α) :
    Timed.lasting now ttl v = some ⟨v, some (now + ttl * 1000000)⟩ :=
  if_neg (Nat.ne_of_gt httl)

theorem Timed.live_lasting {α : Type} {now ttl : Nat} (httl : 0 < ttl) (v : α) :
    Timed.live now (Timed.lasting now ttl v) = some v := by
  rw [Timed.lasting_pos httl]
  exact if_pos (Nat.le_add_right _ _)

theorem Timed.val_lasting {α : Type} {now ttl : Nat} {v : α} {t : Timed α}
    (h : Timed.lasting now ttl v = some t) : t.val = v := by
  unfold Timed.lasting at h
  split at h
  · cases h
  · cases h
    rfl

/-- A value with a TTL is gone once the TTL has passed. -/
theorem Timed.live_lasting_of_lt {α : Type} {now ttl m : Nat} (hm : now + ttl * 1000000 < m)
    (v : α) : Timed.live m (Timed.lasting now ttl v) = none := by
  unfold Timed.lasting
  split
  · rfl
  · exact if_neg (Nat.not_le.mpr hm)

/-- `EXPIRE key ttl`: nothing happens to a key that is not there. -/
def Timed.expire {α : Type} (now ttl : Nat) (t : Option (Timed α)) : Option (Timed α) :=
  (Timed.live now t).bind (Timed.lasting now ttl)

theorem live_expire {α : Type} {now ttl : Nat} (httl : 0 < ttl) (t : Option (Timed α)) :
    Timed.live now (Timed.expire now ttl t) = Timed.live now t := by
  unfold Timed.expire
  cases Timed.live now t with
  | none => rfl
  | some v => exact Timed.live_lasting httl v

/-- The deadline a key keeps when its value is updated in place. -/
def Timed.deadlineOf {α : Type} (now : Nat) (t : Option (Timed α)) : Option Nat :=
  match Timed.live now t, t with
  | some _, some ⟨_, d⟩ => d
  | _, _ => none

/-- What is read of a key is there. -/
theorem Timed.live_val {α : Type} {now : Nat} {t : Option (Timed α)} {v : α}
    (h : Timed.live now t = some v) : ∃ w, t = some w ∧ w.val = v := by
  unfold Timed.live at h
  split at h
  · exact absurd h (by simp)
  · exact ⟨_, rfl, Option.some.inj h⟩
  · split at h
    · exact ⟨_, rfl, Option.some.inj h⟩
    · exact absurd h (by simp)

/-- One entry of a channel's stream. -/
structure StreamEntry where
  messageId : String
  sequence : Int
  payload : Json
  createdAt : Nat

/-- A Pub/Sub subscription held by a listener task of a node, with what Redis has sent it and it
has not processed. -/
structure Subscriber where
  node : NodeId
  task : Nat
  channel : Channel
  pending : List MessageFrame

/-- The hash of a session.  `touch_session` on an expired key writes one without owner. -/
structure SessionHash where
  tenantId : Option String
  currentNode : NodeId
  createdAt : Option Nat
  lastSeen : Nat

/-- What a presence key may hold. -/
inductive PresenceValue
  | set (connections : OSet ConnId)
  | str (s : String)

/-- The store. -/
structure Redis where
  now : Nat := 0
  faults : List Bool := []
  ageTrims : List Nat := []
  sequence : Channel → Int := fun _ => 0
  stream : Channel → List StreamEntry := fun _ => []
  appended : Channel → List StreamEntry := fun _ => []
  published : Channel → List MessageFrame := fun _ => []
  ranged : Channel → List (List StreamEntry) := fun _ => []
  subscribers : List Subscriber := []
  roomNodes : Channel → Option (Timed (OSet NodeId)) := fun _ => none
  sessions : String → Option (Timed SessionHash) := fun _ => none
  acks : String × Channel → Option (Timed Int) := fun _ => none
  presence : String → Option (Timed PresenceValue) := fun _ => none
  idempotency : String → Option (Timed (String × Int)) := fun _ => none

namespace Redis

/-- Write the key `room_nodes(channel)`. -/
def setRoom (r : Redis) (channel : Channel) (v : Option (Timed (OSet NodeId))) : Redis :=
  { r with roomNodes := Function.update r.roomNodes channel v }

/-- Write the key `session(sessionId)`. -/
def setSession (r : Redis) (sessionId : String) (v : Option (Timed SessionHash)) : Redis :=
  { r with sessions := Function.update r.sessions sessionId v }

/-- Write the key `session_ack(sessionId, channel)`. -/
def setAck (r : Redis) (sessionId : String) (channel : Channel) (v : Option (Timed Int)) : Redis :=
  { r with acks := Function.update r.acks (sessionId, channel) v }

/-- Write a presence key. -/
def setPresence (r : Redis) (k : String) (v : Option (Timed PresenceValue)) : Redis :=
  { r with presence := Function.update r.presence k v }

/-- Write an idempotency key: the id and the number of the message it stands for. -/
def setIdempotency (r : Redis) (k : String) (v : Option (Timed (String × Int))) : Redis :=
  { r with idempotency := Function.update r.idempotency k v }

/-! ## 2. Commands -/

/-- A command with its retries: it fails, without having had an effect, if the next fault says so,
and is executed once otherwise. -/
def attempt {α : Type} (f : Redis → Except Exn α × Redis) (r : Redis) : Except Exn α × Redis :=
  match r.faults with
  | true :: rest => (.error .redis, { r with faults := rest })
  | false :: rest => f { r with faults := rest }
  | [] => f r

/-- What a command that may fail does to the store. -/
theorem attempt_cases {α : Type} (f : Redis → Except Exn α × Redis) (r : Redis) :
    (∃ fs, attempt f r = (.error .redis, { r with faults := fs })) ∨
      ∃ fs, attempt f r = f { r with faults := fs } := by
  unfold attempt
  split
  · exact Or.inl ⟨_, rfl⟩
  · exact Or.inr ⟨_, rfl⟩
  · exact Or.inr ⟨r.faults, rfl⟩

theorem attempt_failing {α : Type} {r : Redis} (f : Redis → Except Exn α × Redis)
    (h : r.faults.head? = some true) :
    attempt f r = (.error .redis, { r with faults := r.faults.tail }) := by
  obtain ⟨rest, hrest⟩ := List.head?_eq_some_iff.mp h
  rw [attempt, hrest]
  rfl

/-- A command while Redis is up. -/
theorem attempt_up {α : Type} {r : Redis} (f : Redis → Except Exn α × Redis) (hup : r.faults = []) :
    attempt f r = f r := by
  rw [attempt, hup]

/-- A command awaited by a program. -/
def command {α : Type} (f : Redis → Except Exn α × Redis) : Prog Redis Exn α :=
  .atomic (attempt f)

theorem run_command_ok {α : Type} {f : Redis → Except Exn α × Redis} {r : Redis}
    (hf : r.faults = []) : (command f).run r = f r := by
  rw [command, Prog.run_atomic, attempt, hf]

/-- `INCR`. -/
def incr (channel : Channel) (r : Redis) : Except Exn Int × Redis :=
  (.ok (r.sequence channel + 1),
    { r with sequence := Function.update r.sequence channel (r.sequence channel + 1) })

/-- `XADD key MAXLEN = maxlen`: append, then evict from the front down to `maxlen` entries. -/
def xadd (channel : Channel) (maxlen : Nat) (entry : Redis → StreamEntry) (r : Redis) :
    Except Exn Unit × Redis :=
  let l := r.stream channel ++ [entry r]
  (.ok (), { r with
    stream := Function.update r.stream channel (l.drop (l.length - maxlen))
    appended := Function.update r.appended channel (r.appended channel ++ [entry r]) })

/-- `XTRIM key MINID ~`: evict the aged-out entries at the front, never the newest entry. -/
def xtrim (channel : Channel) (r : Redis) : Except Exn Unit × Redis :=
  match r.ageTrims with
  | [] => (.ok (), r)
  | k :: rest =>
    (.ok (), { r with
      ageTrims := rest
      stream := Function.update r.stream channel
        ((r.stream channel).drop (min k ((r.stream channel).length - 1))) })

/-- `XRANGE key - +`. -/
def xrange (channel : Channel) (r : Redis) : Except Exn (List StreamEntry) × Redis :=
  (.ok (r.stream channel), { r with
    ranged := Function.update r.ranged channel (r.ranged channel ++ [r.stream channel]) })

/-- `PUBLISH`: the message goes to every subscriber of the topic at this moment. -/
def publish (channel : Channel) (frame : Redis → MessageFrame) (r : Redis) :
    Except Exn Unit × Redis :=
  (.ok (), { r with
    published := Function.update r.published channel (r.published channel ++ [frame r])
    subscribers := r.subscribers.map (fun s =>
      if s.channel = channel then { s with pending := s.pending ++ [frame r] } else s) })

/-- `SADD relay:room:{channel}:nodes node`. -/
def roomAdd (channel : Channel) (node : NodeId) (r : Redis) : Except Exn Unit × Redis :=
  let old := (Timed.live r.now (r.roomNodes channel)).getD OSet.empty
  (.ok (), r.setRoom channel
    (some ⟨old.add node, Timed.deadlineOf r.now (r.roomNodes channel)⟩))

/-- `EXPIRE relay:room:{channel}:nodes`. -/
def roomExpire (channel : Channel) (ttl : Nat) (r : Redis) : Except Exn Unit × Redis :=
  (.ok (), r.setRoom channel (Timed.expire r.now ttl (r.roomNodes channel)))

/-- `SREM relay:room:{channel}:nodes node`. -/
def roomRemove (channel : Channel) (node : NodeId) (r : Redis) : Except Exn Unit × Redis :=
  (.ok (), r.setRoom channel
    ((Timed.live r.now (r.roomNodes channel)).map (fun s =>
      ⟨s.discard node, Timed.deadlineOf r.now (r.roomNodes channel)⟩)))

/-- The node is a member of `room_nodes(channel)`. -/
def inRoom (r : Redis) (channel : Channel) (node : NodeId) : Bool :=
  match Timed.live r.now (r.roomNodes channel) with
  | some s => decide (node ∈ s)
  | none => false

theorem Timed.live_deadlineOf {α : Type} {now : Nat} {t : Option (Timed α)} {v : α}
    (h : Timed.live now t = some v) (w : α) :
    Timed.live now (some ⟨w, Timed.deadlineOf now t⟩) = some w := by
  rcases t with _ | ⟨u, _ | d⟩
  · exact absurd h (by simp [Timed.live])
  · rfl
  · by_cases hd : now ≤ d
    · simp [Timed.live, Timed.deadlineOf, hd]
    · simp [Timed.live, hd] at h

theorem inRoom_roomRemove (r : Redis) (channel : Channel) (node : NodeId) :
    (roomRemove channel node r).2.inRoom channel node = false := by
  simp only [roomRemove, setRoom, inRoom, Function.update_self]
  cases h : Timed.live r.now (r.roomNodes channel) with
  | none => rfl
  | some s =>
    rw [Option.map_some, Timed.live_deadlineOf h]
    simp

end Redis

/-! ## 3. Sessions -/

namespace Sessions

open Redis

/-- `create_session`; the fresh UUID is an argument. -/
def createSession (env : Env) (sessionId tenantId : String) (nodeId : NodeId) :
    Prog Redis Exn String := do
  command (fun r => (.ok (), r.setSession sessionId
    (some ⟨⟨some tenantId, nodeId, some r.now, r.now⟩,
      Timed.deadlineOf r.now (r.sessions sessionId)⟩)))
  command (fun r => (.ok (), r.setSession sessionId
    (Timed.expire r.now env.settings.sessionResumeWindowSeconds (r.sessions sessionId))))
  return sessionId

/-- `touch_session`. -/
def touchSession (env : Env) (sessionId : String) (nodeId : NodeId) : Prog Redis Exn Unit := do
  command (fun r =>
    let old := Timed.live r.now (r.sessions sessionId)
    (.ok (), r.setSession sessionId
      (some ⟨⟨old.bind SessionHash.tenantId, nodeId, old.bind SessionHash.createdAt, r.now⟩,
        Timed.deadlineOf r.now (r.sessions sessionId)⟩)))
  command (fun r => (.ok (), r.setSession sessionId
    (Timed.expire r.now env.settings.sessionResumeWindowSeconds (r.sessions sessionId))))

/-- `get_session`. -/
def getSession (sessionId : String) : Prog Redis Exn (Option SessionHash) :=
  command (fun r => (.ok (Timed.live r.now (r.sessions sessionId)), r))

/-- `record_ack`: read, then advance. -/
def recordAck (env : Env) (sessionId : String) (channel : Channel) (sequence : Int) :
    Prog Redis Exn Unit := do
  let current ← command (fun r => (.ok (Timed.live r.now (r.acks (sessionId, channel))), r))
  if current.all (fun n => decide (n < sequence)) then
    command (fun r => (.ok (), r.setAck sessionId channel
      (Timed.lasting r.now env.settings.sessionResumeWindowSeconds sequence)))
  else
    return ()

/-- `get_ack`. -/
def getAck (sessionId : String) (channel : Channel) : Prog Redis Exn Int := do
  let val ← command (fun r => (.ok (Timed.live r.now (r.acks (sessionId, channel))), r))
  return val.getD 0

end Sessions

/-! ## 4. Presence -/

namespace Presence

open Redis

/-- `_key`. -/
def key (tenantId userId : String) : String := "relay:presence:" ++ tenantId ++ ":" ++ userId

/-- `_state_key`. -/
def stateKey (tenantId userId : String) : String := key tenantId userId ++ ":state"

/-- `EXPIRE` on a presence key. -/
def expireKey (k : String) (ttl : Nat) (r : Redis) : Redis :=
  r.setPresence k (Timed.expire r.now ttl (r.presence k))

/-- `DEL` on a presence key. -/
def deleteKey (k : String) (r : Redis) : Redis :=
  r.setPresence k none

/-- `SADD` on a presence key. -/
def addMember (k : String) (connectionId : ConnId) (r : Redis) : Except Exn Unit × Redis :=
  match Timed.live r.now (r.presence k) with
  | some (.str _) => (.error .wrongType, r)
  | some (.set s) => (.ok (), r.setPresence k
      (some ⟨.set (s.add connectionId), Timed.deadlineOf r.now (r.presence k)⟩))
  | none => (.ok (), r.setPresence k (some ⟨.set (OSet.empty.add connectionId), none⟩))

/-- `connection_online`: SADD and EXPIRE in one transaction; EXPIRE runs even if SADD fails. -/
def connectionOnline (env : Env) (tenantId userId : String) (connectionId : ConnId) :
    Prog Redis Exn Unit :=
  command (fun r =>
    let res := addMember (key tenantId userId) connectionId r
    (res.1, expireKey (key tenantId userId) env.settings.presenceTtlSeconds res.2))

/-- `refresh`: two EXPIREs in one transaction. -/
def refresh (env : Env) (tenantId userId : String) : Prog Redis Exn Unit :=
  command (fun r => (.ok (), expireKey (stateKey tenantId userId) env.settings.presenceTtlSeconds
    (expireKey (key tenantId userId) env.settings.presenceTtlSeconds r)))

/-- `SREM` on a presence key: a set that becomes empty is deleted. -/
def removeMember (k : String) (connectionId : ConnId) (r : Redis) : Except Exn Unit × Redis :=
  match Timed.live r.now (r.presence k) with
  | some (.str _) => (.error .wrongType, r)
  | some (.set s) => (.ok (), r.setPresence k
      (if (s.discard connectionId).elems.isEmpty then none
       else some ⟨.set (s.discard connectionId), Timed.deadlineOf r.now (r.presence k)⟩))
  | none => (.ok (), r)

/-- `SCARD` on a presence key. -/
def countMembers (k : String) (r : Redis) : Except Exn Nat × Redis :=
  match Timed.live r.now (r.presence k) with
  | some (.str _) => (.error .wrongType, r)
  | some (.set s) => (.ok s.elems.length, r)
  | none => (.ok 0, r)

/-- `connection_offline`: true if the user has no connection left. -/
def connectionOffline (tenantId userId : String) (connectionId : ConnId) :
    Prog Redis Exn Bool := do
  command (removeMember (key tenantId userId) connectionId)
  let remaining ← command (countMembers (key tenantId userId))
  if remaining = 0 then
    command (fun r => (.ok (), deleteKey (stateKey tenantId userId)
      (deleteKey (key tenantId userId) r)))
    return true
  else
    return false

/-- `set_state` with IDLE or ONLINE, the two values the frame loop passes. -/
def setState (env : Env) (tenantId userId : String) (idle : Bool) : Prog Redis Exn Unit :=
  if idle then
    command (fun r => (.ok (), r.setPresence (stateKey tenantId userId)
      (Timed.lasting r.now env.settings.presenceTtlSeconds (.str "IDLE"))))
  else
    command (fun r => (.ok (), deleteKey (stateKey tenantId userId) r))

/-- `PresenceState`. -/
inductive State
  | online | idle | offline
  deriving DecidableEq, Repr

/-- What `get_presence` answers. -/
structure Report where
  userId : String
  state : State
  connections : Nat
  deriving DecidableEq, Repr

/-- `GET` on a presence key. -/
def getKey (k : String) (r : Redis) : Except Exn (Option String) × Redis :=
  match Timed.live r.now (r.presence k) with
  | some (.str s) => (.ok (some s), r)
  | some (.set _) => (.error .wrongType, r)
  | none => (.ok none, r)

/-- `get_presence`. -/
def getPresence (tenantId userId : String) : Prog Redis Exn Report := do
  let connections ← command (countMembers (key tenantId userId))
  if connections = 0 then
    return ⟨userId, .offline, 0⟩
  else
    let reported ← command (getKey (stateKey tenantId userId))
    return ⟨userId, if reported = some "IDLE" then .idle else .online, connections⟩

/-- The start of every presence key of a tenant. -/
def keyPrefix (tenantId : String) : String := "relay:presence:" ++ tenantId ++ ":"

/-- `key.endswith(":state")`. -/
def endsWithState (k : String) : Bool := ":state".toList.isSuffixOf k.toList

/-- `key[len(prefix):]`. -/
def userOf (tenantId k : String) : String :=
  String.ofList (k.toList.drop (keyPrefix tenantId).toList.length)

/-- `list_online`, on the keys that `SCAN MATCH` returned. -/
def listOnline (tenantId : String) : List String → Prog Redis Exn (List Report)
  | [] => return []
  | k :: keys => do
    if endsWithState k then
      listOnline tenantId keys
    else
      let report ← getPresence tenantId (userOf tenantId k)
      let out ← listOnline tenantId keys
      return report :: out

end Presence

end Relay
