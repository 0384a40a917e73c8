/-
# The two copies of a message

A subscriber gets a message in one of two copies.  The live one is the envelope `publish_message`
hands to PUBLISH.  The replayed one is built by the RESUME branch from the fields of the stream entry,
which are texts: `json.dumps` of the payload, `str` of the number and of the time.

Id, number, channel and payload are the same in both (`parse_fields`).  The timestamp need not be.  The
entry holds the time read before the XADD; the envelope is stamped with a second reading, after the
answer to the XTRIM.  Both are cut to whole seconds, so the copies differ exactly if a second begins
between the two readings.

The calls run as the stages of `Relay.Publish`, in any interleaving, with failing commands and with
time passing between any two of them; `Clocked` also notes the readings.

* `copies_agree_iff`: when the copy a RESUME builds is the envelope that was sent;
* `copies_differ_over_a_second`: one microsecond between the commands is enough.
-/
import Mathlib
import Relay.Replay
import Relay.Handler

namespace Relay

open Redis

/-! ## 1. The fields of a stream entry -/

/-- The fields as XADD takes them and XRANGE returns them. -/
structure EntryFields where
  messageId : String
  sequence : String
  payload : String
  createdAt : String

/-- The library functions between values and texts. -/
structure Codec where
  /-- `json.dumps`. -/
  dumps : Json → String
  /-- `json.loads`; `none` if it raises. -/
  loads : String → Option Json
  /-- `str` of a clock reading. -/
  strTime : Nat → String
  /-- `float` of a text; `none` if it raises. -/
  float : String → Option Nat

namespace Codec

variable (codec : Codec)

/-- The fields `append_to_channel_buffer` writes. -/
def fields (e : StreamEntry) : EntryFields :=
  ⟨e.messageId, e.sequence.repr, codec.dumps e.payload, codec.strTime e.createdAt⟩

/-- What `replay_channel` reads from the fields. -/
def parse (f : EntryFields) : Option StreamEntry := do
  let sequence ← f.sequence.toInt?
  let payload ← codec.loads f.payload
  let createdAt ← codec.float f.createdAt
  return ⟨f.messageId, sequence, payload, createdAt⟩

/-- The MESSAGE frame the RESUME branch builds from the fields of an entry. -/
def replayed (channel : Channel) (f : EntryFields) : Option MessageFrame :=
  (codec.parse f).map (replayFrame channel)

variable {codec}

/-- An entry survives its texts if its payload and its time do. -/
theorem parse_fields {e : StreamEntry} (hjson : codec.loads (codec.dumps e.payload) = some e.payload)
    (hfloat : codec.float (codec.strTime e.createdAt) = some e.createdAt) :
    codec.parse (codec.fields e) = some e := by
  simp only [parse, fields, Int.toInt?_repr, hjson, hfloat]
  rfl

end Codec

/-! ## 2. Publishing on a clock -/

namespace Stage

/-- `created_at` of a call, given the clock as the call is scheduled: it is read for the XADD. -/
def readCreated (created now : Nat) : Stage → Nat
  | numbered _ => now
  | _ => created

/-- The time of the envelope, which is read for the PUBLISH. -/
def readBuilt (built now : Nat) : Stage → Nat
  | trimmed _ => now
  | _ => built

end Stage

/-- One command of a call, or some microseconds that pass. -/
inductive ClockedAct
  | call (i : Nat)
  | tick (microseconds : Nat)

/-- Calls in progress, and the clock readings the `i`-th of them has taken. -/
structure Clocked where
  pubs : Publishers
  /-- `time.time()` for the field `created_at`. -/
  created : Nat → Nat := fun _ => 0
  /-- `time.gmtime()` for the envelope. -/
  built : Nat → Nat := fun _ => 0

namespace Clocked

/-- The store. -/
def redis (s : Clocked) : Redis := s.pubs.redis

/-- One step. -/
def step (env : Env) (s : Clocked) : ClockedAct → Clocked
  | .tick microseconds =>
    { s with pubs := ⟨{ s.redis with now := s.redis.now + microseconds }, s.pubs.calls⟩ }
  | .call i =>
    match s.pubs.calls[i]? with
    | some (_, st) =>
      { pubs := s.pubs.step env i
        created := Function.update s.created i (st.readCreated (s.created i) s.redis.now)
        built := Function.update s.built i (st.readBuilt (s.built i) s.redis.now) }
    | none => s

/-- Calls that have not begun, over an empty store; `faults` and `trims` say which of the coming
commands fail and what the coming XTRIMs find too old. -/
def start (faults : List Bool) (trims : List Nat) (calls : List PublishCall) : Clocked :=
  { pubs := ⟨{ faults := faults, ageTrims := trims }, calls.map (fun call => (call, .start))⟩ }

end Clocked

/-! ## 3. What a call leaves behind -/

namespace Stage

/-- The number under which a call has appended its entry. -/
def storedAs : Stage → Option Int
  | stored n => some n
  | trimmed n => some n
  | done n => some n
  | _ => none

end Stage

/-- A call at some stage has left its entry and its envelope in the store, with the times it read. -/
structure Left (call : PublishCall) (created built : Nat) (r : Redis) (st : Stage) : Prop where
  entry : ∀ n, st.storedAs = some n →
    ⟨call.messageId, n, call.payload, created⟩ ∈ r.appended call.channel
  envelope : ∀ n, st = .done n →
    ⟨call.messageId, call.channel, n, built / 1000000, call.payload⟩ ∈ r.published call.channel

/-- Nothing is taken out of the histories. -/
structure HistoriesGrow (r r' : Redis) : Prop where
  appended : ∀ c, r.appended c ⊆ r'.appended c
  published : ∀ c, r.published c ⊆ r'.published c

section Left

variable {env : Env} {call : PublishCall} {created built : Nat} {r r' : Redis} {st : Stage}

theorem Left.grows (h : Left call created built r st) (hg : HistoriesGrow r r') :
    Left call created built r' st :=
  ⟨fun n hn => hg.appended _ (h.entry n hn), fun n hn => hg.published _ (h.envelope n hn)⟩

/-- A call that has not come so far, or has failed, has nothing to account for. -/
theorem Left.nothing (h : st.storedAs = none) : Left call created built r st := by
  refine ⟨fun n hn => ?_, fun n hn => ?_⟩
  · rw [h] at hn
    nomatch hn
  · rw [hn] at h
    nomatch h

theorem subset_update_append {α : Type} (h : Channel → List α) (d : Channel) (l : List α)
    (c : Channel) : h c ⊆ Function.update h d (h d ++ l) c := by
  rcases eq_or_ne c d with rfl | hne
  · rw [Function.update_self]
    exact List.subset_append_left _ _
  · rw [Function.update_of_ne hne]
    exact List.Subset.refl _

theorem grow_fire (env : Env) (call : PublishCall) (r : Redis) (st : Stage) :
    HistoriesGrow r (st.fire env call r).1 := by
  cases st with
  | numbered n => exact ⟨subset_update_append _ _ _, fun _ => List.Subset.refl _⟩
  | trimmed n => exact ⟨fun _ => List.Subset.refl _, subset_update_append _ _ _⟩
  | stored n =>
    simp only [Stage.fire, xtrim]
    split <;> exact ⟨fun _ => List.Subset.refl _, fun _ => List.Subset.refl _⟩
  | start => exact ⟨fun _ => List.Subset.refl _, fun _ => List.Subset.refl _⟩
  | done n => exact ⟨fun _ => List.Subset.refl _, fun _ => List.Subset.refl _⟩
  | failed => exact ⟨fun _ => List.Subset.refl _, fun _ => List.Subset.refl _⟩

/-- What scheduling a call does: its next command, one that fails, or nothing.  Only the list of
faults changes besides. -/
theorem advance_cases (env : Env) (call : PublishCall) (r : Redis) (st : Stage) :
    (∃ fs, st.advance env call r = st.fire env call { r with faults := fs }) ∨
      (∃ fs, st.advance env call r = ({ r with faults := fs }, .failed)) ∨
        ¬ st.Running ∧ st.advance env call r = (r, st) := by
  unfold Stage.advance
  split
  · split
    · exact Or.inr (Or.inl ⟨_, rfl⟩)
    · exact Or.inl ⟨_, rfl⟩
    · exact Or.inl ⟨r.faults, rfl⟩
  · rename_i hrun
    exact Or.inr (Or.inr ⟨hrun, rfl⟩)

theorem grow_advance (env : Env) (call : PublishCall) (r : Redis) (st : Stage) :
    HistoriesGrow r (st.advance env call r).1 := by
  rcases advance_cases env call r st with ⟨fs, h⟩ | ⟨fs, h⟩ | ⟨-, h⟩
  · obtain ⟨ha, hp⟩ := grow_fire env call { r with faults := fs } st
    rw [h]
    exact ⟨ha, hp⟩
  · rw [h]
    exact ⟨fun _ => List.Subset.refl _, fun _ => List.Subset.refl _⟩
  · rw [h]
    exact ⟨fun _ => List.Subset.refl _, fun _ => List.Subset.refl _⟩

theorem Left.fire (h : Left call created built r st) :
    Left call (st.readCreated created r.now) (st.readBuilt built r.now) (st.fire env call r).1
      (st.fire env call r).2 := by
  have hgrow := grow_fire env call r st
  cases st with
  | start => exact Left.nothing rfl
  | numbered n =>
    refine ⟨fun m hm => ?_, fun _ hn => by cases hn⟩
    cases hm
    simp only [Stage.fire, xadd, Stage.entry, Function.update_self]
    exact List.mem_append_right _ (List.mem_singleton.mpr rfl)
  | stored n => exact ⟨fun m hm => hgrow.appended _ (h.entry m hm), fun _ hn => by cases hn⟩
  | trimmed n =>
    refine ⟨fun m hm => hgrow.appended _ (h.entry m hm), fun m hm => ?_⟩
    cases hm
    simp only [Stage.fire, publish, Stage.envelope, Function.update_self]
    exact List.mem_append_right _ (List.mem_singleton.mpr rfl)
  | done n => exact h
  | failed => exact h

/-- Scheduling a call keeps the account of what it has left. -/
theorem Left.advance (h : Left call created built r st) :
    Left call (st.readCreated created r.now) (st.readBuilt built r.now)
      (st.advance env call r).1 (st.advance env call r).2 := by
  rcases advance_cases env call r st with ⟨fs, heq⟩ | ⟨fs, heq⟩ | ⟨hrun, heq⟩
  · have hf : Left call created built { r with faults := fs } st := ⟨h.entry, h.envelope⟩
    rw [heq]
    exact hf.fire
  · rw [heq]
    exact Left.nothing rfl
  · rw [heq]
    cases st with
    | done n => exact h
    | failed => exact h
    | start => exact absurd trivial hrun
    | numbered n => exact absurd trivial hrun
    | stored n => exact absurd trivial hrun
    | trimmed n => exact absurd trivial hrun

end Left

/-! ## 4. Runs -/

namespace Clocked

variable {env : Env}

theorem step_call {s : Clocked} {i : Nat} {call : PublishCall} {st : Stage}
    (h : s.pubs.calls[i]? = some (call, st)) :
    s.step env (.call i) =
      ⟨⟨(st.advance env call s.redis).1, s.pubs.calls.set i (call, (st.advance env call s.redis).2)⟩,
        Function.update s.created i (st.readCreated (s.created i) s.redis.now),
        Function.update s.built i (st.readBuilt (s.built i) s.redis.now)⟩ := by
  simp only [step, Publishers.step, h]
  rfl

/-- What holds of every call, of the numbers, and of the streams, along a run. -/
structure Sound (s : Clocked) : Prop where
  left : ∀ i call st, s.pubs.calls[i]? = some (call, st) →
    Left call (s.created i) (s.built i) s.redis st
  numbered : s.pubs.Numbered
  suffix : ∀ c, s.redis.stream c <:+ s.redis.appended c

theorem suffix_fire {r : Redis} {c : Channel} (h : r.stream c <:+ r.appended c) (call : PublishCall)
    (st : Stage) : (st.fire env call r).1.stream c <:+ (st.fire env call r).1.appended c := by
  cases st with
  | numbered n => exact suffix_xadd h _ _ _
  | stored n => exact suffix_xtrim h _
  | start => exact h
  | trimmed n => exact h
  | done n => exact h
  | failed => exact h

theorem suffix_advance {r : Redis} {c : Channel} (h : r.stream c <:+ r.appended c)
    (call : PublishCall) (st : Stage) :
    (st.advance env call r).1.stream c <:+ (st.advance env call r).1.appended c := by
  rcases advance_cases env call r st with ⟨fs, heq⟩ | ⟨fs, heq⟩ | ⟨-, heq⟩
  · rw [heq]
    exact suffix_fire (r := { r with faults := fs }) h call st
  · rw [heq]
    exact h
  · rw [heq]
    exact h

theorem Sound.step {s : Clocked} (h : s.Sound) (a : ClockedAct) : (s.step env a).Sound := by
  cases a with
  | tick microseconds =>
    refine ⟨fun i call st hi => ?_, h.numbered, h.suffix⟩
    exact (h.left i call st hi).grows ⟨fun _ => List.Subset.refl _, fun _ => List.Subset.refl _⟩
  | call i =>
    cases hi : s.pubs.calls[i]? with
    | none =>
      simp only [Clocked.step, hi]
      exact h
    | some c =>
      obtain ⟨call, st⟩ := c
      have hnum : (s.step env (.call i)).pubs.Numbered := by
        simp only [Clocked.step, hi]
        exact Publishers.numbered_step env s.pubs i h.numbered
      rw [step_call hi] at hnum ⊢
      refine ⟨fun j call' st' hj => ?_, hnum, fun c => suffix_advance (h.suffix c) call st⟩
      rcases eq_or_ne j i with rfl | hne
      · -- the call that was scheduled
        rw [List.getElem?_set_self (List.getElem?_eq_some_iff.mp hi).1] at hj
        obtain ⟨rfl, rfl⟩ := Prod.mk.inj (Option.some.inj hj)
        simp only [Function.update_self]
        exact (h.left j call st hi).advance
      · rw [List.getElem?_set_ne hne.symm] at hj
        simp only [Function.update_of_ne hne]
        exact (h.left j call' st' hj).grows (grow_advance env call s.redis st)

theorem sound_start (faults : List Bool) (trims : List Nat) (calls : List PublishCall) :
    (start faults trims calls).Sound := by
  refine ⟨fun i call st hi => ?_, fun c => ?_, fun c => List.suffix_refl _⟩
  · simp only [start, List.getElem?_map, Option.map_eq_some_iff] at hi
    obtain ⟨_, -, hc⟩ := hi
    rw [← (Prod.mk.inj hc).2]
    exact Left.nothing rfl
  · have hz : (start faults trims calls).pubs.numbers c = [] := by
      simp [Publishers.numbers, start, Publishers.heldOn, Publishers.heldOf, List.flatMap_map]
    rw [hz]
    exact ⟨le_refl _, List.nodup_nil, by simp⟩

/-- The calls stay the calls. -/
theorem mem_calls_step {s : Clocked} {calls : List PublishCall}
    (h : ∀ c ∈ s.pubs.calls, c.1 ∈ calls) (a : ClockedAct) :
    ∀ c ∈ (s.step env a).pubs.calls, c.1 ∈ calls := by
  cases a with
  | tick microseconds => exact h
  | call i =>
    cases hi : s.pubs.calls[i]? with
    | none =>
      simp only [Clocked.step, hi]
      exact h
    | some c =>
      obtain ⟨call, st⟩ := c
      rw [step_call hi]
      intro c hc
      rcases List.mem_or_eq_of_mem_set hc with hc | rfl
      · exact h c hc
      · exact h (call, st) (List.mem_of_getElem? hi)

end Clocked

/-! ## 5. The copies -/

open Clocked

/-- **When the copies agree.**  Any calls run interleaved, with failing commands, age trimming and
time passing between any two commands.  If JSON objects and clock readings survive their texts, a call
that returned has sent an envelope, and the frame that RESUME builds from an entry with its number, at
any time after, is that envelope exactly if the two clock readings of the call lie in the same whole
second. -/
theorem copies_agree_iff (env : Env) (codec : Codec) (faults : List Bool) (trims : List Nat)
    (calls : List PublishCall)
    (hjson : ∀ call ∈ calls, codec.loads (codec.dumps call.payload) = some call.payload)
    (hfloat : ∀ t, codec.float (codec.strTime t) = some t) (acts : List ClockedAct) (i : Nat)
    (call : PublishCall) (n : Int)
    (hdone : (runAll (step env) (start faults trims calls) acts).pubs.calls[i]? =
      some (call, .done n)) :
    let s := runAll (step env) (start faults trims calls) acts
    ∃ f ∈ s.redis.published call.channel, f.messageId = call.messageId ∧ f.sequence = n ∧
      ∀ e ∈ s.redis.stream call.channel, e.sequence = n →
        (codec.replayed call.channel (codec.fields e) = some f ↔
          s.created i / 1000000 = s.built i / 1000000) := by
  intro s
  have hsound : s.Sound :=
    runAll_invariant' (fun _ a hs => hs.step a) acts _ (sound_start faults trims calls)
  have hcall : call ∈ calls := by
    have hstart : ∀ c ∈ (start faults trims calls).pubs.calls, c.1 ∈ calls := fun c hc => by
      obtain ⟨call, hmem, rfl⟩ := List.mem_map.mp hc
      exact hmem
    have hstep : ∀ (s : Clocked) a, (∀ c ∈ s.pubs.calls, c.1 ∈ calls) →
        ∀ c ∈ (s.step env a).pubs.calls, c.1 ∈ calls := fun _ a hs => mem_calls_step hs a
    exact runAll_invariant' hstep acts _ hstart _ (List.mem_of_getElem? hdone)
  have hleft := hsound.left i call (.done n) hdone
  refine ⟨_, hleft.envelope n rfl, rfl, rfl, fun e he hn => ?_⟩
  -- the number has one entry in the history of the channel
  have hnd : ((s.redis.appended call.channel).map StreamEntry.sequence).Nodup :=
    (hsound.numbered call.channel).2.1.sublist (List.sublist_append_left _ _)
  have heq : e = ⟨call.messageId, n, call.payload, s.created i⟩ :=
    List.inj_on_of_nodup_map hnd ((hsound.suffix call.channel).subset he) (hleft.entry n rfl) hn
  subst heq
  rw [Codec.replayed, Codec.parse_fields (hjson call hcall) (hfloat _)]
  simp [replayFrame]

/-- Texts for the empty object and for the readings of the clock. -/
def textCodec : Codec := ⟨fun _ => "\x7b\x7d", fun _ => some (.obj []), Nat.repr, String.toNat?⟩

/-- One publish; time passes before its INCR and between its XADD and its PUBLISH. -/
def publishOver (before between : Nat) : Clocked :=
  runAll (step (.plain {})) (start [] [] [⟨"t-a:c", "m", .obj []⟩])
    [.tick before, .call 0, .call 0, .tick between, .call 0, .call 0]

/-- The XADD is in the last microsecond of a second and the PUBLISH in the first of the next: the
envelope and the frame that RESUME builds differ. -/
theorem copies_differ_over_a_second :
    (publishOver 999999 1).created 0 = 999999 ∧ (publishOver 999999 1).built 0 = 1000000 ∧
      ∃ e f, (publishOver 999999 1).redis.stream "t-a:c" = [e] ∧
        (publishOver 999999 1).redis.published "t-a:c" = [f] ∧
        textCodec.replayed "t-a:c" (textCodec.fields e) ≠ some f := by
  refine ⟨by decide +kernel, by decide +kernel, ⟨"m", 1, .obj [], 999999⟩,
    ⟨"m", "t-a:c", 1, 1, .obj []⟩, rfl, rfl, fun h => ?_⟩
  rw [Codec.replayed, Codec.parse_fields rfl (Nat.toNat?_repr _)] at h
  have htime := congrArg MessageFrame.timestamp (Option.some.inj h)
  exact absurd htime (by decide)

/-- A whole second may pass before the call, and half of one between its commands. -/
theorem copies_agree_within_a_second :
    ∃ f ∈ (publishOver 1000000 500000).redis.published "t-a:c",
      ∀ e ∈ (publishOver 1000000 500000).redis.stream "t-a:c", e.sequence = 1 →
        textCodec.replayed "t-a:c" (textCodec.fields e) = some f := by
  obtain ⟨f, hf, -, -, hiff⟩ := copies_agree_iff (.plain {}) textCodec [] []
    [⟨"t-a:c", "m", .obj []⟩] (fun call hcall => by rw [List.mem_singleton.mp hcall]; rfl)
    Nat.toNat?_repr [.tick 1000000, .call 0, .call 0, .tick 500000, .call 0, .call 0] 0
    ⟨"t-a:c", "m", .obj []⟩ 1 rfl
  exact ⟨f, hf, fun e he hn => (hiff e he hn).mpr (by decide +kernel)⟩

end Relay
