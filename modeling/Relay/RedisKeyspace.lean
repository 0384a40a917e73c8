/-
# The key space

Redis is one map from strings.  `Redis` has one field for each family of keys instead, so a write
to one family cannot be seen in another.  This is right only if the strings that `RedisKeys` builds
never coincide.  They are joined with colons and nothing is escaped, while channel names and
idempotency keys are free text that may hold colons and the fixed words themselves, so that
`relay:session:<id>:ack:<channel>` could be read in several ways.

Two things make a key readable all the same.  The word after `relay:` names the family, and no such
word with its colon begins another.  Where two free parts follow one another, the first is a UUID,
whose length is fixed; the only part at the end of a key that is not free is the `:nodes` of a room,
and it has no rival in its family.

* `redis_keys_apart`: two keys have the same text iff they come from the same function with the same
  arguments.
-/
import Mathlib
import Relay.Lib.Codes
import Relay.PublishApi
import Relay.SessionIsolation

namespace Relay

/-! ## 1. The functions of `RedisKeys` -/

/-- `RedisKeys.channel_stream`. -/
def RedisKeys.channelStream (channel : Channel) : String := "relay:messages:" ++ channel

/-- `RedisKeys.channel_sequence`. -/
def RedisKeys.channelSequence (channel : Channel) : String := "relay:sequence:" ++ channel

/-- `RedisKeys.node`. -/
def RedisKeys.node (nodeId : String) : String := "relay:nodes:" ++ nodeId

/-- `RedisKeys.room_nodes`. -/
def RedisKeys.roomNodes (room : Channel) : String := "relay:room:" ++ room ++ ":nodes"

/-- `RedisKeys.pubsub_channel`. -/
def RedisKeys.pubsubChannel (channel : Channel) : String := "relay:pubsub:" ++ channel

/-- A UUID in its canonical form. -/
abbrev Uuid : Type := {s : String // IsUuid s}

/-- A call of one of the functions with its arguments. -/
inductive RedisKey where
  | session (sessionId : Uuid)
  | sessionAck (sessionId : Uuid) (channel : Channel)
  | channelStream (channel : Channel)
  | channelSequence (channel : Channel)
  | node (nodeId : String)
  | idempotency (tenantId : Uuid) (key : String)
  | roomNodes (room : Channel)
  | pubsubChannel (channel : Channel)
  deriving DecidableEq

namespace RedisKey

/-- The string the call returns. -/
def text : RedisKey → String
  | session sessionId => sessionKey sessionId.val
  | sessionAck sessionId channel => sessionAckKey sessionId.val channel
  | channelStream channel => RedisKeys.channelStream channel
  | channelSequence channel => RedisKeys.channelSequence channel
  | node nodeId => RedisKeys.node nodeId
  | idempotency tenantId key => RedisKeys.idempotency tenantId.val key
  | roomNodes room => RedisKeys.roomNodes room
  | pubsubChannel channel => RedisKeys.pubsubChannel channel

/-! ## 2. The word of a family and the rest -/

/-- The families of keys, by the word after `relay:`. -/
inductive Family where
  | session | messages | sequence | nodes | idempotency | room | pubsub


/-- What every key of the family begins with. -/
def Family.head : Family → String
  | .session => "relay:session:"
  | .messages => "relay:messages:"
  | .sequence => "relay:sequence:"
  | .nodes => "relay:nodes:"
  | .idempotency => "relay:idempotency:"
  | .room => "relay:room:"
  | .pubsub => "relay:pubsub:"

theorem prefixFree_head : PrefixFree (fun f : Family => f.head.toList) := by
  intro i j h
  cases i <;> cases j <;> first
    | rfl
    | exact absurd h (by decide +kernel)

/-- The family of a key. -/
def family : RedisKey → Family
  | session _ => .session
  | sessionAck _ _ => .session
  | channelStream _ => .messages
  | channelSequence _ => .sequence
  | node _ => .nodes
  | idempotency _ _ => .idempotency
  | roomNodes _ => .room
  | pubsubChannel _ => .pubsub

/-- What follows the word of the family. -/
def tail : RedisKey → String
  | session sessionId => sessionId.val
  | sessionAck sessionId channel => sessionId.val ++ (":ack:" ++ channel)
  | channelStream channel => channel
  | channelSequence channel => channel
  | node nodeId => nodeId
  | idempotency tenantId key => tenantId.val ++ (":" ++ key)
  | roomNodes room => room ++ ":nodes"
  | pubsubChannel channel => channel

theorem text_eq (k : RedisKey) : k.text = k.family.head ++ k.tail := by
  cases k with
  | session sessionId => rfl
  | sessionAck sessionId channel =>
    show "relay:session:" ++ sessionId.val ++ ":ack:" ++ channel =
      "relay:session:" ++ (sessionId.val ++ (":ack:" ++ channel))
    rw [String.append_assoc, String.append_assoc]
  | channelStream channel => rfl
  | channelSequence channel => rfl
  | node nodeId => rfl
  | idempotency tenantId key =>
    show "relay:idempotency:" ++ tenantId.val ++ ":" ++ key =
      "relay:idempotency:" ++ (tenantId.val ++ (":" ++ key))
    rw [String.append_assoc, String.append_assoc]
  | roomNodes room =>
    exact String.append_assoc
  | pubsubChannel channel => rfl

/-! ## 3. Reading a key back -/

/-- Two UUIDs in front of anything: they are told apart by their length. -/
theorem uuid_append_inj {a b : Uuid} {x y : String} (h : a.val ++ x = b.val ++ y) :
    a = b ∧ x = y := by
  have hl := congrArg String.toList h
  rw [String.toList_append, String.toList_append] at hl
  have hlen : a.val.toList.length = b.val.toList.length :=
    a.property.length.trans b.property.length.symm
  obtain ⟨h1, h2⟩ := List.append_inj hl hlen
  exact ⟨Subtype.ext (String.toList_inj.mp h1), String.toList_inj.mp h2⟩

/-- A UUID alone is not a UUID with something behind it. -/
theorem uuid_ne_append {a b : Uuid} {x : String} (hx : x ≠ "") : a.val ≠ b.val ++ x := by
  intro h
  have h' : a.val ++ "" = b.val ++ x := String.append_empty.trans h
  exact hx (uuid_append_inj h').2.symm

/-- Within a family, the rest of the text determines the key. -/
theorem eq_of_tail {k k' : RedisKey} (hf : k.family = k'.family) (ht : k.tail = k'.tail) :
    k = k' := by
  -- only the session family has two members, so most pairs are of different families
  cases k <;> cases k' <;> first
    | (simp only [family, reduceCtorEq] at hf; done)
    | skip
  case session.session a b => exact congrArg session (Subtype.ext ht)
  case session.sessionAck a b channel => exact absurd ht (uuid_ne_append (by simp))
  case sessionAck.session a channel b => exact absurd ht.symm (uuid_ne_append (by simp))
  case sessionAck.sessionAck a channel b channel' =>
    obtain ⟨h1, h2⟩ := uuid_append_inj ht
    rw [h1, (String.append_right_inj _).mp h2]
  case channelStream.channelStream a b => exact congrArg channelStream ht
  case channelSequence.channelSequence a b => exact congrArg channelSequence ht
  case node.node a b => exact congrArg node ht
  case idempotency.idempotency a key b key' =>
    obtain ⟨h1, h2⟩ := uuid_append_inj ht
    rw [h1, (String.append_right_inj _).mp h2]
  case roomNodes.roomNodes a b => exact congrArg roomNodes ((String.append_left_inj _).mp ht)
  case pubsubChannel.pubsubChannel a b => exact congrArg pubsubChannel ht

theorem text_injective : Function.Injective text := by
  intro k k' h
  rw [text_eq, text_eq] at h
  have hl := congrArg String.toList h
  rw [String.toList_append, String.toList_append] at hl
  obtain ⟨hf, ht⟩ := prefixFree_head.append_inj hl
  exact eq_of_tail hf (String.toList_inj.mp ht)

/-- **Keys never collide.**  Two keys have the same text iff they come from the same function with
the same arguments. -/
theorem redis_keys_apart (k k' : RedisKey) : k.text = k'.text ↔ k = k' :=
  ⟨fun h => text_injective h, fun h => congrArg text h⟩

/-- The ids have to be UUIDs: two sessions whose ids are free text may share a key. -/
example : sessionAckKey "s" "a:ack:b" = sessionAckKey "s:ack:a" "b" := by
  decide +kernel

end RedisKey

end Relay
