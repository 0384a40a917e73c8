/-
# The client protocol: JSON values, frames, settings and channel names

`packages/protocol/frames.py`, `packages/common/config.py` and the namespace half of
`apps/gateway/protocol/auth.py`.

A frame arrives as a JSON value and is turned into a model object branch by branch, so the frame
loop is modelled over `Json` and the parsers below return `none` where the Pydantic model raises
`ValidationError`.  Frames leave as `ServerFrame`; their JSON text is not modelled, only its
length, which is what the connection's byte bound reads.

What the gateway takes from outside this repository is collected in `Env`: Pydantic's lax integer
field (`asInt`), Python's `str` of a decoded value (`strOf`), the text of a `ValidationError`
(`errText`) and the lengths of a serialized frame and payload (`wireSize`, `payloadSize`).  All of
them are arbitrary; the laws used are that an integer is read as itself and a string printed as
itself.
-/
import Mathlib
import Relay.Lib.Dict

namespace Relay

abbrev Channel := String
abbrev ConnId := String
abbrev NodeId := String

/-! ## 1. JSON values -/

/-- A decoded JSON value.  `float` stands for every number that is not an integer literal. -/
inductive Json
  | null
  | bool (b : Bool)
  | int (n : Int)
  | float (text : String)
  | str (s : String)
  | arr (items : List Json)
  | obj (fields : List (String × Json))

/-- Python's truth value of a decoded value. -/
def Json.truthy : Json → Bool
  | .null => false
  | .bool b => b
  | .int n => decide (n ≠ 0)
  | .float text => decide (text ≠ "0.0" ∧ text ≠ "-0.0")
  | .str s => decide (s ≠ "")
  | .arr items => !items.isEmpty
  | .obj fields => !fields.isEmpty

/-- `raw.get(key)` on an object. -/
def Json.field (fields : List (String × Json)) (key : String) : Json :=
  (Dict.getL key fields).getD .null

/-! ## 2. Frame types and error codes -/

/-- `FrameType`. -/
inductive FrameType
  | connect | connected | ping | pong | subscribe | subscribed | unsubscribe | unsubscribed
  | message | ack | nack | resume | resumed | error | disconnect
  deriving DecidableEq, Repr

/-- The wire name of a frame type. -/
def FrameType.value : FrameType → String
  | .connect => "CONNECT"
  | .connected => "CONNECTED"
  | .ping => "PING"
  | .pong => "PONG"
  | .subscribe => "SUBSCRIBE"
  | .subscribed => "SUBSCRIBED"
  | .unsubscribe => "UNSUBSCRIBE"
  | .unsubscribed => "UNSUBSCRIBED"
  | .message => "MESSAGE"
  | .ack => "ACK"
  | .nack => "NACK"
  | .resume => "RESUME"
  | .resumed => "RESUMED"
  | .error => "ERROR"
  | .disconnect => "DISCONNECT"

/-- `ErrorCode`. -/
inductive ErrorCode
  | authFailed | channelForbidden | invalidChannel | invalidFrame | messageTooLarge
  | notConnected | resumeWindowExpired | resumeGap | sessionNotFound | slowConsumer
  | rateLimited | unknownMessage
  deriving DecidableEq, Repr

def ErrorCode.value : ErrorCode → String
  | .authFailed => "AUTH_FAILED"
  | .channelForbidden => "CHANNEL_FORBIDDEN"
  | .invalidChannel => "INVALID_CHANNEL"
  | .invalidFrame => "INVALID_FRAME"
  | .messageTooLarge => "MESSAGE_TOO_LARGE"
  | .notConnected => "NOT_CONNECTED"
  | .resumeWindowExpired => "RESUME_WINDOW_EXPIRED"
  | .resumeGap => "RESUME_GAP"
  | .sessionNotFound => "SESSION_NOT_FOUND"
  | .slowConsumer => "SLOW_CONSUMER"
  | .rateLimited => "RATE_LIMITED"
  | .unknownMessage => "UNKNOWN_MESSAGE"

/-! ## 3. Frames the server writes -/

/-- `MessageFrame`: the application message envelope.  `timestamp` is the whole second that the
code formats as a UTC date. -/
structure MessageFrame where
  messageId : String
  channel : Channel
  sequence : Int
  timestamp : Nat
  payload : Json

/-- Everything the server puts on a socket. -/
inductive ServerFrame
  | connected (connectionId sessionId : String) (nodeId : NodeId) (heartbeatIntervalSeconds : Rat)
  | ping (serverTime : Nat)
  | subscribed (channel : Channel)
  | unsubscribed (channel : Channel)
  | message (m : MessageFrame)
  | resumed (sessionId : String) (replayedByChannel : List (Channel × Nat)) (gaps : List Channel)
  | error (code : ErrorCode) (message : String)
  | disconnect (reason : String)

/-- The message a frame carries, if it is a MESSAGE. -/
def ServerFrame.message? : ServerFrame → Option MessageFrame
  | .message m => some m
  | _ => none

/-- The gaps a frame reports, if it is a RESUMED. -/
def ServerFrame.gaps? : ServerFrame → Option (List Channel)
  | .resumed _ _ gaps => some gaps
  | _ => none

/-! ## 4. Settings and what lies outside the repository -/

/-- `Settings`, the fields the modelled code reads, with their defaults. -/
structure Settings where
  nodeId : NodeId := "relay-node-a"
  heartbeatIntervalSeconds : Rat := 15
  sessionResumeWindowSeconds : Nat := 300
  messageRetentionSeconds : Nat := 300
  channelBufferMaxMessages : Nat := 1000
  connectionQueueMaxMessages : Nat := 1000
  connectionQueueMaxBytes : Nat := 2000000
  maxInflightMessages : Nat := 100
  maxConnectionsPerTenant : Nat := 10000
  maxMessageSizeBytes : Nat := 1000000
  presenceTtlSeconds : Nat := 30
  nodeTtlSeconds : Nat := 15
  idempotencyTtlSeconds : Nat := 600

/-- The settings, and the behaviour of the libraries the gateway calls. -/
structure Env where
  settings : Settings
  /-- Pydantic's lax `int` field. -/
  asInt : Json → Option Int
  asInt_int : ∀ n, asInt (.int n) = some n
  /-- Python's `str` of a decoded value. -/
  strOf : Json → String
  strOf_str : ∀ s, strOf (.str s) = s
  /-- `str(e)` of the `ValidationError` a frame model raises on this input. -/
  errText : Json → String
  /-- Length in bytes of `frame.model_dump_json()`. -/
  wireSize : ServerFrame → Nat
  /-- `len(json.dumps(payload).encode())`. -/
  payloadSize : Json → Nat

/-- An environment for worked cases: integers and booleans pass the `int` field, every frame and
every payload is 64 bytes long. -/
def Env.plain (settings : Settings) : Env where
  settings := settings
  asInt
    | .int n => some n
    | .bool b => some (if b then 1 else 0)
    | _ => none
  asInt_int := fun _ => rfl
  strOf
    | .str s => s
    | _ => "None"
  strOf_str := fun _ => rfl
  errText := fun _ => "1 validation error"
  wireSize := fun _ => 64
  payloadSize := fun _ => 64

/-! ## 5. Channel names -/

/-- `MAX_CHANNEL_LENGTH`. -/
def maxChannelLength : Nat := 200

/-- `_CHANNEL_SAFE_CHARS`. -/
def channelSafeChars : List Char :=
  "abcdefghijklmnopqrstuvwxyzABCDEFGHIJKLMNOPQRSTUVWXYZ0123456789:_-.".toList

/-- `validate_channel_name`. -/
def validateChannelName (channel : Channel) : Except String Channel :=
  if channel.toList.isEmpty then .error "channel must not be empty"
  else if channel.toList.length > maxChannelLength then
    .error ("channel exceeds max length " ++ toString maxChannelLength)
  else if !channel.toList.all (fun ch => channelSafeChars.contains ch) then
    .error "channel contains unsafe characters"
  else .ok channel

/-- A name that passes comes back as it is. -/
theorem validateChannelName_eq {name channel : Channel}
    (h : validateChannelName name = .ok channel) : name = channel := by
  unfold validateChannelName at h
  split_ifs at h
  exact Except.ok.inj h

/-- `channel_belongs_to_tenant`. -/
def channelBelongsToTenant (channel : Channel) (tenantId : String) : Bool :=
  ("t-" ++ tenantId ++ ":").toList.isPrefixOf channel.toList

/-- `namespaced_channel`. -/
def namespacedChannel (tenantId logicalName : String) : Channel :=
  "t-" ++ tenantId ++ ":" ++ logicalName

/-- The characters of a canonical UUID: lower-case hexadecimal digits, and dashes after the
8th, 12th, 16th and 20th of them. -/
def uuidShape (l : List Char) : Bool :=
  l.length == 36 && l.zipIdx.all (fun e =>
    if e.2 ∈ [8, 13, 18, 23] then e.1 == '-' else "0123456789abcdef".toList.contains e.1)

/-- `str(uuid.uuid4())` and `str(tenant.id)` have this form. -/
def IsUuid (s : String) : Prop := uuidShape s.toList = true

instance (s : String) : Decidable (IsUuid s) := inferInstanceAs (Decidable (_ = true))

theorem IsUuid.length {s : String} (h : IsUuid s) : s.toList.length = 36 := by
  unfold IsUuid uuidShape at h
  rw [Bool.and_eq_true] at h
  simpa using h.1

theorem belongs_iff {channel : Channel} {tenantId : String} :
    channelBelongsToTenant channel tenantId = true ↔
      ("t-" ++ tenantId ++ ":").toList <+: channel.toList := by
  unfold channelBelongsToTenant
  exact List.isPrefixOf_iff_prefix

/-- **No channel lies in two tenants' namespaces.**  UUIDs have one length, so two of them that
follow `t-` in the same channel name and are followed by a colon are the same. -/
theorem belongs_unique {channel : Channel} {a b : String} (ha : IsUuid a) (hb : IsUuid b)
    (h1 : channelBelongsToTenant channel a = true)
    (h2 : channelBelongsToTenant channel b = true) : a = b := by
  rw [belongs_iff] at h1 h2
  have hlen : ("t-" ++ a ++ ":").toList.length = ("t-" ++ b ++ ":").toList.length := by
    simp [ha.length, hb.length]
  have heq : ("t-" ++ a ++ ":").toList = ("t-" ++ b ++ ":").toList :=
    (List.prefix_of_prefix_length_le h1 h2 (le_of_eq hlen)).eq_of_length hlen
  simp only [String.toList_append] at heq
  have h3 := List.append_cancel_right heq
  exact String.toList_inj.mp (List.append_cancel_left h3)

/-! ## 6. Frames the client sends

Each parser is the Pydantic model of one frame type, applied to the fields of an object whose
`type` has already been compared.  Fields the model does not declare are ignored. -/

/-- A `str` field. -/
def Json.asStr : Json → Option String
  | .str s => some s
  | _ => none

/-- `SubscribeFrame(**raw)`: the only frame whose channel name is validated. -/
def parseSubscribe (fields : List (String × Json)) : Option Channel := do
  let channel ← (Json.field fields "channel").asStr
  match validateChannelName channel with
  | .ok c => some c
  | .error _ => none

/-- `UnsubscribeFrame(**raw)`. -/
def parseUnsubscribe (fields : List (String × Json)) : Option Channel :=
  (Json.field fields "channel").asStr

/-- `AckFrame(**raw)`. -/
def parseAck (env : Env) (fields : List (String × Json)) : Option (Channel × Int) := do
  let channel ← (Json.field fields "channel").asStr
  let sequence ← env.asInt (Json.field fields "sequence")
  some (channel, sequence)

/-- A `dict[str, int]` field, entry by entry. -/
def Env.asIntDict (env : Env) : List (String × Json) → Option (List (String × Int))
  | [] => some []
  | (k, v) :: t => do
    let n ← env.asInt v
    let rest ← env.asIntDict t
    some ((k, n) :: rest)

/-- `ResumeFrame(**raw)`: `last_ack_by_channel` defaults to the empty dict. -/
def parseResume (env : Env) (fields : List (String × Json)) :
    Option (String × Dict Channel Int) := do
  let sessionId ← (Json.field fields "session_id").asStr
  match Dict.getL "last_ack_by_channel" fields with
  | none => some (sessionId, Dict.empty)
  | some (.obj entries) => do
    let acks ← env.asIntDict entries
    some (sessionId, Dict.ofList acks)
  | some _ => none

/-! ## 7. What the reference client sends -/

/-- The frames `RelayClient` builds. -/
inductive ClientFrame
  | connect (token : String) (sessionId : Option String)
  | pong
  | subscribe (channel : Channel)
  | unsubscribe (channel : Channel)
  | ack (channel : Channel) (sequence : Int)
  | resume (sessionId : String) (lastAckByChannel : List (Channel × Int))
  | disconnect (reason : String)
  deriving DecidableEq

/-- `JSON.stringify` on one side, `receive_json` on the other. -/
def ClientFrame.toJson : ClientFrame → Json
  | .connect token sessionId => .obj [("type", .str FrameType.connect.value), ("token", .str token),
      ("session_id", match sessionId with | some s => .str s | none => .null)]
  | .pong => .obj [("type", .str FrameType.pong.value)]
  | .subscribe channel => .obj [("type", .str FrameType.subscribe.value), ("channel", .str channel)]
  | .unsubscribe channel =>
    .obj [("type", .str FrameType.unsubscribe.value), ("channel", .str channel)]
  | .ack channel sequence =>
    .obj [("type", .str FrameType.ack.value), ("channel", .str channel), ("sequence", .int sequence)]
  | .resume sessionId lastAckByChannel =>
    .obj [("type", .str FrameType.resume.value), ("session_id", .str sessionId),
      ("last_ack_by_channel", .obj (lastAckByChannel.map (fun e => (e.1, .int e.2))))]
  | .disconnect reason =>
    .obj [("type", .str FrameType.disconnect.value), ("reason", .str reason)]

/-! ## 8. Exceptions -/

/-- What the modelled code raises. -/
inductive Exn
  /-- A Redis command failed. -/
  | redis
  /-- A Redis command met a key of the wrong type. -/
  | wrongType
  /-- Writing to the socket failed. -/
  | socket
  /-- `WebSocketDisconnect`: the peer is gone. -/
  | disconnect
  /-- A frame model rejected its input. -/
  | validation
  /-- `raw.get` on something that is not an object. -/
  | attribute
  /-- The text received is not JSON. -/
  | decode
  /-- `SlowConsumerError`. -/
  | slowConsumer
  deriving DecidableEq, Repr

end Relay
