/-
What the child processes of the simulation runner publish and check.

The payload of an event follows from the seed and the number of the event, and so a consumer
can tell what it should have got. A corruption probe flips bits of one payload in the ring;
what the producer reports is what the payload was before.
-/

import Myelon.Dst.Merge
import Myelon.Mixing.Words

namespace Dst

open Function

def rawEventCapacity : Nat := 1024

structure RawRingEvent where
  sequence : UInt64
  payloadHash : UInt64
  payloadLen : UInt32
  payload : List UInt8
  full : payload.length = rawEventCapacity

def payloadBytes (seed sequence : UInt64) (payloadLen : Nat) : List UInt8 :=
  let salt := seed.toUInt8 * 17
  (List.range payloadLen).map fun index =>
    sequence.toUInt8 + UInt8.ofNat index * 31 + salt

def hashRound (hash : UInt64) (byte : UInt8) : UInt64 :=
  (hash ^^^ byte.toUInt64) * 0x1000000001b3

def stablePayloadHash (bytes : List UInt8) : UInt64 :=
  bytes.foldl hashRound 0xcbf29ce484222325

@[simp] theorem payloadBytes_length (seed sequence : UInt64) (payloadLen : Nat) :
    (payloadBytes seed sequence payloadLen).length = payloadLen := by
  simp only [payloadBytes, List.length_map, List.length_range]

theorem padded_length {payload : List UInt8} (fits : payload.length ≤ rawEventCapacity) :
    (payload ++ List.replicate (rawEventCapacity - payload.length) 0).length =
      rawEventCapacity := by
  rw [List.length_append, List.length_replicate]
  omega

/-- A payload that does not fit panics. -/
def makeEvent (seed sequence : UInt64) (payloadLen : Nat) :
    Option (RawRingEvent × OracleMessage) :=
  if fits : payloadLen ≤ rawEventCapacity then
    let payload := payloadBytes seed sequence payloadLen
    let hash := stablePayloadHash payload
    some (
      { sequence := sequence
        payloadHash := hash
        payloadLen := UInt32.ofNat payloadLen
        payload := payload ++ List.replicate (rawEventCapacity - payload.length) 0
        full := padded_length ((payloadBytes_length seed sequence payloadLen).le.trans fits) },
      { sequence := sequence
        payloadHash := hash
        payloadLen := payloadLen
        timestampNs := sequence })
  else none

def RawRingEvent.corrupted (event : RawRingEvent) : RawRingEvent :=
  { event with
    payload := event.payload.modify 0 (· ^^^ 0x5a)
    full := by rw [List.length_modify, event.full] }

/-- A wrong payload panics, unless a probe may be under way. -/
def validateEvent (seed : UInt64) (event : RawRingEvent) (allowCorruptionValidation : Bool) :
    Option OracleMessage :=
  let payloadLen := event.payloadLen.toNat
  let expected := payloadBytes seed event.sequence payloadLen
  if payloadLen ≤ rawEventCapacity then
    let actual := event.payload.take payloadLen
    let actualHash := stablePayloadHash actual
    if allowCorruptionValidation = true ∨ (actualHash = event.payloadHash ∧ actual = expected) then
      some
        { sequence := event.sequence
          payloadHash := actualHash
          payloadLen := payloadLen
          timestampNs := event.sequence }
    else none
  else none

def publishEvents (seed : UInt64) (payloadSize : Nat) (corruptAtSequence : Option UInt64) :
    List UInt64 → Option (List RawRingEvent × List OracleMessage)
  | [] => some ([], [])
  | sequence :: later => do
      let (event, oracle) ← makeEvent seed sequence payloadSize
      let event :=
        if corruptAtSequence = some sequence ∧ 0 < payloadSize then event.corrupted else event
      let (events, messages) ← publishEvents seed payloadSize corruptAtSequence later
      return (event :: events, oracle :: messages)

def sequenceRange (start count : Nat) : List UInt64 := (List.range' start count).map UInt64.ofNat

/-- Numbers past the range panic. -/
def runProducer (seed : UInt64) (sequenceStart messageCount payloadSize : Nat)
    (corruptAtSequence : Option UInt64) : Option (List RawRingEvent × List OracleMessage) :=
  if sequenceStart + messageCount < 2 ^ 64 then
    publishEvents seed payloadSize corruptAtSequence
      (sequenceRange sequenceStart messageCount)
  else none

/-- One look for the next event. Where there is none, it matters whether the producer has left
its report, and three times are read off the clock. -/
inductive Poll where
  | event (sequence : UInt64) (event : RawRingEvent)
  | empty (producerCompleted : Bool) (noted elapsed checked : Nat)

structure ConsumerSettings where
  seed : UInt64
  messageCount : Nat
  allowCorruptionValidation : Bool
  producerDoneGrace : Nat
  consumeDeadline : Nat

structure Consuming where
  messages : List OracleMessage
  previous : Option UInt64
  producerDoneAt : Option Nat

inductive ConsumerEnd where
  | reported
  | panicked
  | waiting
  deriving DecidableEq

structure Consumed where
  messages : List OracleMessage
  ended : ConsumerEnd

/-- A number that is not the next one panics. -/
def Consuming.follows (consuming : Consuming) (sequence : UInt64) : Bool :=
  match consuming.previous with
  | some prev => decide (following prev = some sequence)
  | none => true

def Consuming.look (settings : ConsumerSettings) (consuming : Consuming) :
    Poll → Except ConsumerEnd Consuming
  | .event sequence event =>
    match validateEvent settings.seed event settings.allowCorruptionValidation with
    | none => .error .panicked
    | some oracle =>
      if consuming.follows sequence then
        .ok
          { messages := consuming.messages ++ [oracle]
            previous := some sequence
            producerDoneAt := none }
      else .error .panicked
  | .empty producerCompleted noted elapsed checked =>
    let doneAt := consuming.producerDoneAt.getD noted
    if producerCompleted = true ∧ settings.producerDoneGrace ≤ elapsed - doneAt then
      .error .reported
    else if checked < settings.consumeDeadline then
      .ok { consuming with
        producerDoneAt := if producerCompleted then some doneAt else consuming.producerDoneAt }
    else .error .panicked

/-- The loop ends with as many messages as it was told, or early, when the producer is done. -/
def consumeEvents (settings : ConsumerSettings) : Consuming → List Poll → Consumed
  | consuming, [] =>
    if settings.messageCount ≤ consuming.messages.length then ⟨consuming.messages, .reported⟩
    else ⟨consuming.messages, .waiting⟩
  | consuming, poll :: later =>
    if settings.messageCount ≤ consuming.messages.length then ⟨consuming.messages, .reported⟩
    else
      match consuming.look settings poll with
      | .ok next => consumeEvents settings next later
      | .error ended => ⟨consuming.messages, ended⟩

def runConsumer (settings : ConsumerSettings) (polls : List Poll) : Consumed :=
  consumeEvents settings { messages := [], previous := none, producerDoneAt := none } polls

def consumerReport (index : Nat) (attachedAfterMs : UInt64) (messages : List OracleMessage) :
    ChildReport where
  role := .consumer (UInt32.ofNat index)
  messages := messages
  checksumTotal := checksum messages
  backpressureEvents := 0
  attachedAfterMs := attachedAfterMs

def Consumed.report (consumed : Consumed) (index : Nat) (attachedAfterMs : UInt64) :
    Option ChildReport :=
  match consumed.ended with
  | .reported => some (consumerReport index attachedAfterMs consumed.messages)
  | .panicked | .waiting => none

/-- The run waits for the reports of all consumers, from `index` on, and without one of them it
fails. -/
def runConsumers (settings : ConsumerSettings) (attachedAfterMs : Nat → UInt64) :
    Nat → List (List Poll) → Option (List ChildReport)
  | _, [] => some []
  | index, polls :: later => do
      let report ← (runConsumer settings polls).report index (attachedAfterMs index)
      let reports ← runConsumers settings attachedAfterMs (index + 1) later
      return report :: reports

def verifyRawRingBroadcast (oracle : MessageOracle) (consumers : List ChildReport) :
    Option (Except (List OracleViolation) Unit) :=
  oracle.verifyComplete (consumers.map ChildReport.messages)

/-! ### The hash -/

theorem hashPrime_injective : Injective fun word : UInt64 => word * 0x1000000001b3 :=
  Mixing.injective_of_toBitVec (fun _ => rfl)
    (Mixing.mul_injective (show 0x1000000001b3#64 * 0xb46dd957aff6957b#64 = 1#64 by decide))

theorem hashRound_states (byte : UInt8) : Injective (hashRound · byte) :=
  hashPrime_injective.comp
    (Mixing.injective_of_toBitVec (fun _ => rfl) (Mixing.xor_injective byte.toUInt64.toBitVec))

theorem hashRound_bytes (hash : UInt64) : Injective (hashRound hash) := by
  intro left right same
  have mixed := hashPrime_injective same
  rw [UInt64.xor_right_inj] at mixed
  exact UInt8.toUInt64_inj.mp mixed

/-- The hash tells payloads apart that differ in one byte. -/
theorem stablePayloadHash_ne (before after : List UInt8) {byte other : UInt8}
    (differ : byte ≠ other) :
    stablePayloadHash (before ++ byte :: after) ≠ stablePayloadHash (before ++ other :: after) :=
  Mixing.foldl_ne hashRound_states hashRound_bytes _ before after differ

theorem flipped_ne (byte : UInt8) : byte ^^^ 0x5a ≠ byte := by
  intro same
  have cancelled : byte ^^^ 0x5a = byte ^^^ 0 := same.trans (UInt8.xor_zero).symm
  rw [UInt8.xor_right_inj] at cancelled
  exact absurd cancelled (by decide)

/-! ### One event -/

section Event

variable {seed sequence : UInt64} {payloadSize : Nat}

def observation (seed sequence : UInt64) (payloadSize : Nat) (hit : Bool) : OracleMessage :=
  { sequence := sequence
    payloadHash := stablePayloadHash
      (if hit then (payloadBytes seed sequence payloadSize).modify 0 (· ^^^ 0x5a)
      else payloadBytes seed sequence payloadSize)
    payloadLen := payloadSize
    timestampNs := sequence }

theorem observation_hash_ne (seed sequence : UInt64) (nonempty : 0 < payloadSize) :
    (observation seed sequence payloadSize true).payloadHash ≠
      (observation seed sequence payloadSize false).payloadHash := by
  have length := payloadBytes_length seed sequence payloadSize
  unfold observation
  rw [if_pos rfl, if_neg Bool.false_ne_true]
  cases payload : payloadBytes seed sequence payloadSize with
  | nil =>
    rw [payload, List.length_nil] at length
    omega
  | cons byte rest => exact stablePayloadHash_ne [] rest (flipped_ne byte)

theorem take_padded (payload : List UInt8) (count : Nat) :
    (payload ++ List.replicate count 0).take payload.length = payload := by
  rw [List.take_append_of_le_length (Nat.le_refl _), List.take_length]

theorem take_flipped (payload : List UInt8) (nonempty : 0 < payload.length) (count : Nat) :
    ((payload ++ List.replicate count 0).modify 0 (· ^^^ 0x5a)).take payload.length =
      payload.modify 0 (· ^^^ 0x5a) := by
  cases payload with
  | nil => exact absurd nonempty (Nat.lt_irrefl 0)
  | cons byte rest =>
    simp only [List.cons_append, List.modify_zero_cons, List.length_cons, List.take_succ_cons,
      take_padded]

theorem validateEvent_made (seed sequence : UInt64) (fits : payloadSize ≤ rawEventCapacity) :
    ∃ event, makeEvent seed sequence payloadSize =
        some (event, observation seed sequence payloadSize false) ∧
      ∀ hit allow : Bool, (hit = true → 0 < payloadSize) →
        validateEvent seed (if hit then event.corrupted else event) allow =
          if hit && !allow then none else some (observation seed sequence payloadSize hit) := by
  rw [makeEvent, dif_pos fits]
  refine ⟨_, rfl, ?_⟩
  have length := payloadBytes_length seed sequence payloadSize
  have size : (UInt32.ofNat payloadSize).toNat = payloadSize :=
    UInt32.toNat_ofNat_of_lt' (Nat.lt_of_le_of_lt fits (by decide))
  intro hit allow nonempty
  cases hit with
  | false =>
    have front := take_padded (payloadBytes seed sequence payloadSize)
      (rawEventCapacity - payloadSize)
    rw [length] at front
    simp only [Bool.false_eq_true, if_false, validateEvent, size, fits, if_true, length, front,
      and_self, or_true, Bool.false_and, observation]
  | true =>
    have front := take_flipped (payloadBytes seed sequence payloadSize)
      (by rw [length]; exact nonempty rfl) (rawEventCapacity - payloadSize)
    rw [length] at front
    have differ := observation_hash_ne seed sequence (nonempty rfl)
    simp only [observation, if_true, Bool.false_eq_true, if_false] at differ
    simp only [if_true, validateEvent, RawRingEvent.corrupted, size, fits, length, front, differ,
      false_and, or_false, Bool.true_and, observation]
    cases allow with
    | false => rfl
    | true => rfl

end Event

/-! ### A run of the children -/

section Run

variable {seed : UInt64} {payloadSize : Nat} {corruptAtSequence : Option UInt64}

def probed (corruptAtSequence : Option UInt64) (payloadSize : Nat) (sequence : UInt64) : Bool :=
  decide (corruptAtSequence = some sequence ∧ 0 < payloadSize)

def observations (seed : UInt64) (payloadSize : Nat) (hit : UInt64 → Bool)
    (sequences : List UInt64) : List OracleMessage :=
  sequences.map fun sequence => observation seed sequence payloadSize (hit sequence)

theorem observations_sequence (hit : UInt64 → Bool) (sequences : List UInt64) :
    (observations seed payloadSize hit sequences).map OracleMessage.sequence = sequences := by
  rw [observations, List.map_map]
  exact List.map_id sequences

def EventOf (seed : UInt64) (payloadSize : Nat) (corruptAtSequence : Option UInt64)
    (event : RawRingEvent) (sequence : UInt64) : Prop :=
  ∀ allow, validateEvent seed event allow =
    if probed corruptAtSequence payloadSize sequence && !allow then none
    else some (observation seed sequence payloadSize
      (probed corruptAtSequence payloadSize sequence))

theorem publishEvents_validated (seed : UInt64) (corruptAtSequence : Option UInt64)
    (fits : payloadSize ≤ rawEventCapacity) (sequences : List UInt64) :
    ∃ events, publishEvents seed payloadSize corruptAtSequence sequences =
        some (events, observations seed payloadSize (fun _ => false) sequences) ∧
      List.Forall₂ (EventOf seed payloadSize corruptAtSequence) events sequences := by
  induction sequences with
  | nil => exact ⟨[], rfl, List.Forall₂.nil⟩
  | cons sequence later ih =>
    obtain ⟨events, published, validated⟩ := ih
    obtain ⟨event, made, seen⟩ := validateEvent_made seed sequence fits
    refine ⟨(if probed corruptAtSequence payloadSize sequence then event.corrupted else event) ::
      events, ?_, List.Forall₂.cons ?_ validated⟩
    · rw [publishEvents, made, published]
      simp only [probed, decide_eq_true_eq]
      rfl
    · intro allow
      exact seen _ allow fun hit => (of_decide_eq_true hit).2

theorem publishEvents_panics (seed : UInt64) (corruptAtSequence : Option UInt64)
    (large : rawEventCapacity < payloadSize) (sequence : UInt64) (later : List UInt64) :
    publishEvents seed payloadSize corruptAtSequence (sequence :: later) = none := by
  rw [publishEvents, makeEvent, dif_neg (by omega)]
  rfl

/-! ### What a consumer finds -/

def ringEvents (events : List RawRingEvent) : List (UInt64 × RawRingEvent) :=
  events.mapIdx fun index event => (UInt64.ofNat index, event)

def delivered (polls : List Poll) : List (UInt64 × RawRingEvent) :=
  polls.filterMap fun
    | .event sequence event => some (sequence, event)
    | .empty .. => none

/-- Neither the grace nor the time for all of it runs out in between. -/
def InTime (settings : ConsumerSettings) : Option Nat → List Poll → Prop
  | _, [] => True
  | _, .event .. :: later => InTime settings none later
  | producerDoneAt, .empty producerCompleted noted elapsed checked :: later =>
    let doneAt := producerDoneAt.getD noted
    (producerCompleted = true → elapsed - doneAt < settings.producerDoneGrace) ∧
      checked < settings.consumeDeadline ∧
      InTime settings (if producerCompleted then some doneAt else producerDoneAt) later

structure Seen (seed : UInt64) (payloadSize : Nat) (corruptAtSequence : Option UInt64)
    (sequences : List UInt64) (count : Nat) (consuming : Consuming) : Prop where
  messages : consuming.messages =
    observations seed payloadSize (probed corruptAtSequence payloadSize) (sequences.take count)
  inside : count ≤ sequences.length
  previous : ∀ prev, consuming.previous = some prev → prev.toNat + 1 = count

section Consumer

variable {settings : ConsumerSettings} {sequences : List UInt64} {events : List RawRingEvent}
variable {consuming : Consuming} {count : Nat}

theorem Seen.length
    (seen : Seen settings.seed payloadSize corruptAtSequence sequences count consuming) :
    consuming.messages.length = count := by
  rw [seen.messages, observations, List.length_map, List.length_take, Nat.min_eq_left seen.inside]

theorem Seen.follows
    (seen : Seen settings.seed payloadSize corruptAtSequence sequences count consuming)
    (inRange : count < 2 ^ 64) : consuming.follows (UInt64.ofNat count) = true := by
  rw [Consuming.follows]
  cases before : consuming.previous with
  | none => rfl
  | some prev =>
    have counted := seen.previous prev before
    apply decide_eq_true
    rw [following, if_pos (by omega)]
    apply congrArg some
    apply UInt64.toNat_inj.mp
    rw [UInt64.toNat_ofNat_of_lt' inRange, UInt64.toNat_add]
    change (prev.toNat + 1) % 2 ^ 64 = count
    rw [counted, Nat.mod_eq_of_lt inRange]

theorem Seen.event
    (seen : Seen settings.seed payloadSize corruptAtSequence sequences count consuming)
    (published : List.Forall₂ (EventOf settings.seed payloadSize corruptAtSequence) events
      sequences)
    (inRange : sequences.length < 2 ^ 64) {sequence : UInt64} {event : RawRingEvent}
    {rest : List (UInt64 × RawRingEvent)}
    (next : (sequence, event) :: rest <+: (ringEvents events).drop count) :
    ∃ item later, sequences[count]? = some item ∧
      Seen settings.seed payloadSize corruptAtSequence sequences (count + 1) later ∧
      rest <+: (ringEvents events).drop (count + 1) ∧ later.producerDoneAt = none ∧
      ∀ allow, consuming.look { settings with allowCorruptionValidation := allow }
          (.event sequence event) =
        if probed corruptAtSequence payloadSize item && !allow then .error .panicked
        else .ok later := by
  obtain ⟨behind, whole⟩ := next
  have lengths := published.length_eq
  have remains : count < events.length := by
    by_contra none
    rw [List.drop_eq_nil_of_le (by rw [ringEvents, List.length_mapIdx]; omega)] at whole
    cases whole
  have inside : count < sequences.length := lengths ▸ remains
  have found : (ringEvents events).drop count =
      (UInt64.ofNat count, events[count]) :: (ringEvents events).drop (count + 1) := by
    rw [List.drop_eq_getElem_cons (by rw [ringEvents, List.length_mapIdx]; exact remains)]
    simp only [ringEvents, List.getElem_mapIdx]
  rw [found] at whole
  obtain ⟨same, rest'⟩ := List.cons.inj whole
  cases same
  have here : EventOf settings.seed payloadSize corruptAtSequence events[count]
      sequences[count] := by
    exact (List.forall₂_iff_get.mp published).2 count remains inside
  have after : sequences.take (count + 1) = sequences.take count ++ [sequences[count]] :=
    List.take_succ_eq_append_getElem inside
  refine ⟨sequences[count],
    { messages := consuming.messages ++ [observation settings.seed sequences[count] payloadSize
        (probed corruptAtSequence payloadSize sequences[count])]
      previous := some (UInt64.ofNat count)
      producerDoneAt := none },
    List.getElem?_eq_getElem inside, ⟨?_, inside, ?_⟩, ⟨behind, rest'⟩, rfl, ?_⟩
  · rw [after, seen.messages, observations, observations, List.map_append]
    rfl
  · intro prev same
    cases same
    rw [UInt64.toNat_ofNat_of_lt' (Nat.lt_trans inside inRange)]
  · intro allow
    rw [Consuming.look]
    dsimp only
    rw [here allow]
    cases probed corruptAtSequence payloadSize sequences[count] && !allow with
    | true => rfl
    | false =>
      simp only [Bool.false_eq_true, if_false, seen.follows (Nat.lt_trans inside inRange), if_true]

theorem look_empty_messages {producerCompleted : Bool} {noted elapsed checked : Nat}
    {next : Consuming}
    (looked : consuming.look settings (.empty producerCompleted noted elapsed checked) =
      .ok next) : next.messages = consuming.messages ∧ next.previous = consuming.previous := by
  rw [Consuming.look] at looked
  split at looked
  · cases looked
  · split at looked
    · cases looked
      exact ⟨rfl, rfl⟩
    · cases looked

theorem consumeEvents_observed
    (seen : Seen settings.seed payloadSize corruptAtSequence sequences count consuming)
    (published : List.Forall₂ (EventOf settings.seed payloadSize corruptAtSequence) events
      sequences)
    (inRange : sequences.length < 2 ^ 64) {polls : List Poll}
    (inOrder : delivered polls <+: (ringEvents events).drop count) :
    ∃ received, count ≤ received ∧ received ≤ sequences.length ∧
      (consumeEvents settings consuming polls).messages =
        observations settings.seed payloadSize (probed corruptAtSequence payloadSize)
          (sequences.take received) := by
  induction polls generalizing consuming count with
  | nil =>
    refine ⟨count, Nat.le_refl count, seen.inside, ?_⟩
    rw [consumeEvents]
    split <;> exact seen.messages
  | cons poll later ih =>
    have stops : ∃ received, count ≤ received ∧ received ≤ sequences.length ∧
        consuming.messages = observations settings.seed payloadSize
          (probed corruptAtSequence payloadSize) (sequences.take received) :=
      ⟨count, Nat.le_refl count, seen.inside, seen.messages⟩
    rw [consumeEvents]
    split
    · exact stops
    · cases poll with
      | event sequence event =>
        obtain ⟨item, next, _, further, rest, _, looked⟩ := seen.event published inRange inOrder
        rw [looked settings.allowCorruptionValidation]
        split
        · rename_i reached same
          split at same
          · cases same
          · cases same
            obtain ⟨received, beyond, bounded, messages⟩ := ih further rest
            exact ⟨received, Nat.le_of_succ_le beyond, bounded, messages⟩
        · exact stops
      | empty producerCompleted noted elapsed checked =>
        cases looked : consuming.look settings
            (.empty producerCompleted noted elapsed checked) with
        | error ended => exact stops
        | ok next =>
          obtain ⟨sameMessages, samePrevious⟩ := look_empty_messages looked
          exact ih ⟨sameMessages ▸ seen.messages, seen.inside, samePrevious ▸ seen.previous⟩ inOrder

/-- A consumer that checks its events does as one that does not, up to the corrupted event,
and panics there. -/
theorem consumeEvents_checking (hit : Nat)
    (hits : ∀ index item, sequences[index]? = some item →
      probed corruptAtSequence payloadSize item = decide (index = hit))
    (seen : Seen settings.seed payloadSize corruptAtSequence sequences count consuming)
    (before : count ≤ hit)
    (published : List.Forall₂ (EventOf settings.seed payloadSize corruptAtSequence) events
      sequences)
    (inRange : sequences.length < 2 ^ 64) {polls : List Poll}
    (inOrder : delivered polls <+: (ringEvents events).drop count)
    (allows : settings.allowCorruptionValidation = true) :
    consumeEvents { settings with allowCorruptionValidation := false } consuming polls =
      if hit < (consumeEvents settings consuming polls).messages.length then
        ⟨(consumeEvents settings consuming polls).messages.take hit, .panicked⟩
      else consumeEvents settings consuming polls := by
  have lenient : settings = { settings with allowCorruptionValidation := true } := by
    cases settings
    cases allows
    rfl
  induction polls generalizing consuming count with
  | nil =>
    have short : ¬ hit < (consumeEvents settings consuming []).messages.length := by
      rw [consumeEvents]
      split <;> (rw [seen.length]; omega)
    rw [if_neg short, consumeEvents, consumeEvents]
  | cons poll later ih =>
    have short : ¬ hit < consuming.messages.length := by
      rw [seen.length]
      omega
    rw [consumeEvents, consumeEvents]
    dsimp only
    by_cases complete : settings.messageCount ≤ consuming.messages.length
    · rw [if_pos complete, if_pos complete, if_neg short]
    · rw [if_neg complete, if_neg complete]
      cases poll with
      | event sequence event =>
        obtain ⟨item, next, here, further, rest, _, looked⟩ := seen.event published inRange inOrder
        have lookedHere := looked true
        rw [← lenient, Bool.not_true, Bool.and_false, if_neg Bool.false_ne_true] at lookedHere
        rw [looked false, lookedHere, hits count item here]
        by_cases reached : count = hit
        · -- the one goes on from here with at least this message, the other panics
          obtain ⟨received, beyond, bounded, messages⟩ :=
            consumeEvents_observed further published inRange rest
          have long : hit < (consumeEvents settings next later).messages.length := by
            rw [messages, observations, List.length_map, List.length_take,
              Nat.min_eq_left bounded]
            omega
          dsimp only
          rw [if_pos long, messages, observations, ← List.map_take, List.take_take,
            Nat.min_eq_left (by omega), decide_eq_true reached, ← reached, seen.messages]
          rfl
        · have continues := ih further (by omega) rest
          rw [decide_eq_false reached]
          exact continues
      | empty producerCompleted noted elapsed checked =>
        have same : consuming.look { settings with allowCorruptionValidation := false }
            (.empty producerCompleted noted elapsed checked) =
          consuming.look settings (.empty producerCompleted noted elapsed checked) := rfl
        rw [same]
        cases looked : consuming.look settings
            (.empty producerCompleted noted elapsed checked) with
        | error ended =>
          dsimp only
          rw [if_neg short]
        | ok next =>
          obtain ⟨sameMessages, samePrevious⟩ := look_empty_messages looked
          exact ih ⟨sameMessages ▸ seen.messages, seen.inside, samePrevious ▸ seen.previous⟩
            before inOrder

theorem consumeEvents_served
    (seen : Seen settings.seed payloadSize corruptAtSequence sequences count consuming)
    (published : List.Forall₂ (EventOf settings.seed payloadSize corruptAtSequence) events
      sequences)
    (inRange : sequences.length < 2 ^ 64) (told : settings.messageCount = sequences.length)
    (quiet : settings.allowCorruptionValidation = true ∨
      ∀ item ∈ sequences, probed corruptAtSequence payloadSize item = false)
    {polls : List Poll} (all : delivered polls = (ringEvents events).drop count)
    (inTime : InTime settings consuming.producerDoneAt polls) :
    consumeEvents settings consuming polls =
      ⟨observations settings.seed payloadSize (probed corruptAtSequence payloadSize) sequences,
        .reported⟩ := by
  have ringLength : (ringEvents events).length = sequences.length := by
    rw [ringEvents, List.length_mapIdx, published.length_eq]
  induction polls generalizing consuming count with
  | nil =>
    have none := congrArg List.length all
    rw [List.length_drop, ringLength] at none
    have complete : count = sequences.length :=
      Nat.le_antisymm seen.inside (Nat.le_of_sub_eq_zero none.symm)
    rw [consumeEvents, if_pos (by rw [told, seen.length, complete]), seen.messages, complete,
      List.take_length]
  | cons poll later ih =>
    rw [consumeEvents]
    by_cases complete : settings.messageCount ≤ consuming.messages.length
    · have ends : count = sequences.length := by
        have length := seen.length
        have inside := seen.inside
        omega
      rw [if_pos complete, seen.messages, ends, List.take_length]
    · rw [if_neg complete]
      cases poll with
      | event sequence event =>
        obtain ⟨item, next, here, further, _, renewed, looked⟩ :=
          seen.event published inRange (all.symm ▸ List.prefix_refl _ :
            delivered (.event sequence event :: later) <+: (ringEvents events).drop count)
        have passes : (probed corruptAtSequence payloadSize item &&
            !settings.allowCorruptionValidation) = false := by
          rcases quiet with allows | unprobed
          · rw [allows, Bool.not_true, Bool.and_false]
          · rw [unprobed item (List.mem_of_getElem? here), Bool.false_and]
        have lookedHere := looked settings.allowCorruptionValidation
        rw [passes, if_neg Bool.false_ne_true] at lookedHere
        have rest : delivered later = (ringEvents events).drop (count + 1) := by
          have dropped := congrArg List.tail all
          rw [List.tail_drop] at dropped
          exact dropped
        rw [lookedHere]
        exact ih further rest (renewed ▸ inTime)
      | empty producerCompleted noted elapsed checked =>
        obtain ⟨graceful, punctual, inTime⟩ := inTime
        have looked : consuming.look settings (.empty producerCompleted noted elapsed checked) =
            .ok { consuming with
              producerDoneAt := if producerCompleted then
                some (consuming.producerDoneAt.getD noted) else consuming.producerDoneAt } := by
          rw [Consuming.look, if_neg (by
            intro ⟨completed, late⟩
            exact absurd (graceful completed) (Nat.not_lt.mpr late)), if_pos punctual]
        rw [looked]
        exact ih ⟨seen.messages, seen.inside, seen.previous⟩ all inTime

end Consumer

theorem seen_nothing (seed : UInt64) (payloadSize : Nat) (corruptAtSequence : Option UInt64)
    (sequences : List UInt64) :
    Seen seed payloadSize corruptAtSequence sequences 0
      { messages := [], previous := none, producerDoneAt := none } := by
  refine ⟨rfl, Nat.zero_le _, ?_⟩
  intro prev absent
  cases absent

/-! ### What the oracle finds -/

/-- Where the numbers are as expected, and grow, only hashes and lengths can be wrong. -/
theorem loopViolations_aligned (consumerId consumed : Nat) (front : List OracleMessage)
    (previous : Option UInt64) {expected actual : List OracleMessage}
    (numbers : actual.map OracleMessage.sequence <+: expected.map OracleMessage.sequence)
    (increasing : List.IsChain (· < ·) (previous.toList ++ actual.map OracleMessage.sequence)) :
    loopViolations consumerId (front ++ expected) consumed front.length previous actual =
      (List.zipWith (messageViolations consumerId) expected actual).flatten := by
  induction actual generalizing front previous expected with
  | nil =>
    rw [List.zipWith_nil_right]
    rfl
  | cons message later ih =>
    cases expected with
    | nil => exact absurd (List.prefix_nil.mp numbers) (List.cons_ne_nil _ _)
    | cons wanted rest =>
      obtain ⟨_same, behind⟩ := List.cons_prefix_cons.mp numbers
      obtain ⟨larger, chain⟩ := (increasing_cons_iff previous message later).mp increasing
      have ordered := (reorderViolations_nil_iff consumerId previous message).mpr larger
      have next := ih (front ++ [wanted]) (some message.sequence) behind chain
      rw [List.append_assoc, List.singleton_append, List.length_append, List.length_singleton]
        at next
      rw [loopViolations, ordered, List.nil_append, List.getElem?_append_right (Nat.le_refl _),
        Nat.sub_self, List.getElem?_cons_zero]
      dsimp only
      rw [next, List.zipWith_cons_cons, List.flatten_cons]

theorem consumerViolations_aligned {consumerId : Nat} {expected actual : List OracleMessage}
    (numbers : actual.map OracleMessage.sequence <+: expected.map OracleMessage.sequence)
    (increasing : Increasing actual) :
    consumerViolations consumerId expected actual =
      (List.zipWith (messageViolations consumerId) expected actual).flatten ++
        (if actual.length < expected.length then
          [.missingMessages consumerId (UInt64.ofNat expected.length)
            (UInt64.ofNat actual.length)]
        else []) := by
  have loop := loopViolations_aligned consumerId actual.length [] none numbers
    increasing
  rw [List.nil_append, List.length_nil] at loop
  rw [consumerViolations, loop]

def probeViolations (seed : UInt64) (payloadSize : Nat) (corruptAtSequence : Option UInt64)
    (sequences : List UInt64) (consumerId : Nat) : List OracleViolation :=
  (sequences.filter (probed corruptAtSequence payloadSize)).map fun sequence =>
    .payloadMismatch consumerId sequence
      (observation seed sequence payloadSize false).payloadHash
      (observation seed sequence payloadSize true).payloadHash

theorem observed_violations (consumerId : Nat) (sequences missed : List UInt64) :
    (List.zipWith (messageViolations consumerId)
      (observations seed payloadSize (fun _ => false) (sequences ++ missed))
      (observations seed payloadSize (probed corruptAtSequence payloadSize) sequences)).flatten =
      probeViolations seed payloadSize corruptAtSequence sequences consumerId := by
  induction sequences with
  | nil =>
    rw [show observations seed payloadSize (probed corruptAtSequence payloadSize) [] = [] from rfl,
      List.zipWith_nil_right]
    rfl
  | cons sequence later ih =>
    unfold probeViolations observations at ih ⊢
    rw [List.cons_append, List.map_cons, List.map_cons, List.zipWith_cons_cons, List.flatten_cons,
      ih, List.filter_cons]
    cases hit : probed corruptAtSequence payloadSize sequence with
    | false =>
      rw [(messageViolations_nil_iff consumerId _ _).mpr rfl]
      rfl
    | true =>
      have nonempty : 0 < payloadSize := (of_decide_eq_true hit).2
      have differ := observation_hash_ne seed sequence nonempty
      have numbers : (observation seed sequence payloadSize true).sequence =
          (observation seed sequence payloadSize false).sequence := rfl
      have sizes : (observation seed sequence payloadSize true).payloadLen =
          (observation seed sequence payloadSize false).payloadLen := rfl
      rw [messageViolations, if_neg (not_not.mpr numbers), if_pos differ,
        if_neg (not_not.mpr sizes)]
      rfl

theorem completeViolations_known {consumers : Nat} (published : List OracleMessage)
    (consumerId : Nat) (reports : List (List OracleMessage))
    (known : consumerId + reports.length ≤ consumers) :
    ((MessageOracle.withBroadcastConsumers consumers).extendPublished
        published).completeViolations consumerId reports =
      some ((reports.zipIdx consumerId).flatMap fun report =>
        consumerViolations report.2 published report.1) := by
  induction reports generalizing consumerId with
  | nil => rfl
  | cons report later ih =>
    rw [List.length_cons] at known
    have here := @expectedForConsumer_broadcast consumers consumerId published (by omega)
    rw [MessageOracle.completeViolations, MessageOracle.verifyConsumerMessages, here,
      ih (consumerId + 1) (by omega), List.zipIdx_cons, List.flatMap_cons]
    cases wrong : consumerViolations consumerId published report with
    | nil => simp [verdict, wrong]
    | cons first rest => simp [verdict, wrong]

theorem verifyRawRingBroadcast_known (published : List OracleMessage)
    (reports : List ChildReport) :
    verifyRawRingBroadcast
        ((MessageOracle.withBroadcastConsumers reports.length).extendPublished published)
        reports =
      some (verdict (reports.zipIdx.flatMap fun report =>
        consumerViolations report.2 published report.1.messages)) := by
  rw [verifyRawRingBroadcast, MessageOracle.verifyComplete,
    completeViolations_known published 0 _ (by rw [List.length_map, Nat.zero_add]),
    List.zipIdx_map, List.flatMap_map]
  rfl

theorem sequences_increasing {start count : Nat} (inRange : start + count < 2 ^ 64) :
    List.IsChain (· < ·) (sequenceRange start count) := by
  unfold sequenceRange
  induction count generalizing start with
  | zero => exact List.isChain_nil
  | succ count ih =>
    have later := ih (show start + 1 + count < 2 ^ 64 by omega)
    rw [List.range'_succ, List.map_cons]
    cases count with
    | zero => exact List.isChain_singleton _
    | succ count =>
      rw [List.range'_succ, List.map_cons] at later ⊢
      apply List.isChain_cons_cons.mpr
      constructor
      · rw [UInt64.lt_iff_toNat_lt,
          UInt64.toNat_ofNat_of_lt' (Nat.lt_of_le_of_lt (by omega) inRange),
          UInt64.toNat_ofNat_of_lt' (Nat.lt_of_le_of_lt (by omega) inRange)]
        omega
      · exact later

/-- There is an event with the number of the probe, and it has a payload. -/
def ProbeHits (corruptAtSequence : Option UInt64) (messageCount payloadSize : Nat)
    (sequence : UInt64) : Prop :=
  corruptAtSequence = some sequence ∧ sequence.toNat < messageCount ∧ 0 < payloadSize

theorem mem_sequences {messageCount : Nat} (inRange : messageCount < 2 ^ 64) (sequence : UInt64) :
    sequence ∈ sequenceRange 0 messageCount ↔ sequence.toNat < messageCount := by
  rw [sequenceRange, List.mem_map]
  constructor
  · intro ⟨number, member, same⟩
    rw [List.mem_range'_1] at member
    rw [← same, UInt64.toNat_ofNat_of_lt' (Nat.lt_of_lt_of_le (by omega) (Nat.le_of_lt inRange))]
    omega
  · intro below
    refine ⟨sequence.toNat, ?_, UInt64.ofNat_toNat⟩
    rw [List.mem_range'_1]
    omega

theorem filter_probed {messageCount : Nat} {sequence : UInt64} (inRange : messageCount < 2 ^ 64)
    (hits : ProbeHits corruptAtSequence messageCount payloadSize sequence) :
    (sequenceRange 0 messageCount).filter (probed corruptAtSequence payloadSize) = [sequence] := by
  obtain ⟨at', below, nonempty⟩ := hits
  have increasing := sequences_increasing (show 0 + messageCount < 2 ^ 64 by omega)
  have distinct : (sequenceRange 0 messageCount).Nodup :=
    (List.isChain_iff_pairwise.mp increasing).imp UInt64.ne_of_lt
  have only : probed corruptAtSequence payloadSize = fun other => decide (other = sequence) := by
    funext other
    rw [probed, at', decide_eq_decide, Option.some.injEq]
    constructor
    · intro ⟨same, _⟩
      exact same.symm
    · intro same
      exact ⟨same.symm, nonempty⟩
  rw [only, List.filter_eq, List.count_eq_one_of_mem distinct ((mem_sequences inRange _).mpr below)]
  rfl

theorem unprobed {messageCount : Nat} (inRange : messageCount < 2 ^ 64)
    (misses : ∀ sequence, ¬ ProbeHits corruptAtSequence messageCount payloadSize sequence) :
    ∀ sequence ∈ sequenceRange 0 messageCount,
      probed corruptAtSequence payloadSize sequence = false := by
  intro sequence member
  apply decide_eq_false
  intro ⟨at', nonempty⟩
  exact misses sequence ⟨at', (mem_sequences inRange sequence).mp member, nonempty⟩

theorem sequenceRange_length (start count : Nat) : (sequenceRange start count).length = count := by
  rw [sequenceRange, List.length_map, List.length_range']

theorem sequenceRange_take (start : Nat) {count received : Nat} (within : received ≤ count) :
    (sequenceRange start count).take received = sequenceRange start received := by
  rw [sequenceRange, ← List.map_take, List.take_range'_of_length_ge within]
  rfl

theorem sequenceRange_get {start count index : Nat} {sequence : UInt64}
    (found : (sequenceRange start count)[index]? = some sequence) :
    sequence = UInt64.ofNat (start + index) := by
  rw [sequenceRange, List.getElem?_map, Option.map_eq_some_iff] at found
  obtain ⟨number, there, same⟩ := found
  obtain ⟨_, here⟩ := List.getElem?_eq_some_iff.mp there
  rw [← same, ← here, List.getElem_range', Nat.one_mul]

theorem probed_at {messageCount : Nat} (inRange : messageCount < 2 ^ 64) {hit : UInt64}
    (hits : ProbeHits corruptAtSequence messageCount payloadSize hit) (index : Nat)
    (sequence : UInt64) (found : (sequenceRange 0 messageCount)[index]? = some sequence) :
    probed corruptAtSequence payloadSize sequence = decide (index = hit.toNat) := by
  obtain ⟨at', below, nonempty⟩ := hits
  have inside : index < messageCount := by
    have bounded := (List.getElem?_eq_some_iff.mp found).1
    rwa [sequenceRange_length] at bounded
  have number := sequenceRange_get found
  rw [Nat.zero_add] at number
  have value : sequence.toNat = index := by
    rw [number, UInt64.toNat_ofNat_of_lt' (Nat.lt_trans inside inRange)]
  rw [probed, at', decide_eq_decide, Option.some.injEq, ← value]
  constructor
  · intro ⟨same, _⟩
    rw [same]
  · intro same
    exact ⟨(UInt64.toNat_inj.mp same).symm, nonempty⟩

def shortfall (messageCount : Nat) (report : ChildReport × Nat) : List OracleViolation :=
  if report.1.messages.length < messageCount then
    [.missingMessages report.2 (UInt64.ofNat messageCount)
      (UInt64.ofNat report.1.messages.length)]
  else []

theorem violations_received (seed : UInt64) (payloadSize : Nat)
    (corruptAtSequence : Option UInt64) {messageCount received : Nat}
    (inRange : messageCount < 2 ^ 64) (within : received ≤ messageCount)
    (report : ChildReport × Nat)
    (messages : report.1.messages = observations seed payloadSize
      (probed corruptAtSequence payloadSize) (sequenceRange 0 received)) :
    consumerViolations report.2
        (observations seed payloadSize (fun _ => false) (sequenceRange 0 messageCount))
        report.1.messages =
      probeViolations seed payloadSize corruptAtSequence (sequenceRange 0 received) report.2 ++
        shortfall messageCount report := by
  have front := sequenceRange_take 0 within
  have whole := List.take_append_drop received (sequenceRange 0 messageCount)
  rw [front] at whole
  have published : (observations seed payloadSize (fun _ => false)
      (sequenceRange 0 messageCount)).length = messageCount := by
    rw [observations, List.length_map, sequenceRange_length]
  rw [shortfall, ← whole, ← observed_violations report.2 _
    ((sequenceRange 0 messageCount).drop received), ← messages, whole,
    consumerViolations_aligned, published]
  · rw [messages, observations_sequence, observations_sequence, ← front]
    exact List.take_prefix _ _
  · rw [messages, Increasing, observations_sequence]
    exact sequences_increasing (by omega)

theorem runConsumer_observed {settings : ConsumerSettings} {messageCount : Nat}
    {events : List RawRingEvent}
    (published : List.Forall₂ (EventOf settings.seed payloadSize corruptAtSequence) events
      (sequenceRange 0 messageCount))
    (inRange : messageCount < 2 ^ 64) {polls : List Poll}
    (inOrder : delivered polls <+: ringEvents events) :
    ∃ received, received ≤ messageCount ∧ (runConsumer settings polls).messages =
      observations settings.seed payloadSize (probed corruptAtSequence payloadSize)
        (sequenceRange 0 received) := by
  obtain ⟨received, _, within, messages⟩ := consumeEvents_observed
    (seen_nothing settings.seed payloadSize corruptAtSequence (sequenceRange 0 messageCount))
    published (by rw [sequenceRange_length]; exact inRange) inOrder
  rw [sequenceRange_length] at within
  rw [sequenceRange_take 0 within] at messages
  exact ⟨received, within, messages⟩

theorem report_messages {consumed : Consumed} {index : Nat} {attachedAfterMs : UInt64}
    {report : ChildReport} (reported : consumed.report index attachedAfterMs = some report) :
    report.messages = consumed.messages := by
  rw [Consumed.report] at reported
  split at reported
  · rw [← Option.some.inj reported]
    rfl
  · cases reported
  · cases reported

theorem runConsumers_reports {settings : ConsumerSettings} {attachedAfterMs : Nat → UInt64}
    {index : Nat} {polls : List (List Poll)} {reports : List ChildReport}
    (ran : runConsumers settings attachedAfterMs index polls = some reports) :
    reports.length = polls.length ∧ ∀ report ∈ reports, ∃ looks ∈ polls,
      report.messages = (runConsumer settings looks).messages := by
  induction polls generalizing index reports with
  | nil =>
    cases ran
    refine ⟨rfl, ?_⟩
    intro report absent
    cases absent
  | cons looks later ih =>
    rw [runConsumers, Option.bind_eq_bind, Option.bind_eq_some_iff] at ran
    obtain ⟨report, reported, ran⟩ := ran
    rw [Option.bind_eq_bind, Option.bind_eq_some_iff] at ran
    obtain ⟨others, ranOthers, same⟩ := ran
    cases same
    obtain ⟨lengths, all⟩ := ih ranOthers
    refine ⟨congrArg Nat.succ lengths, ?_⟩
    intro other member
    rcases List.mem_cons.mp member with here | there
    · exact ⟨looks, List.mem_cons_self, here ▸ report_messages reported⟩
    · obtain ⟨found, among, messages⟩ := all other there
      exact ⟨found, List.mem_cons_of_mem looks among, messages⟩

/-- The verdict on the reports of consumers that were handed the events in order. -/
theorem verifyRawRingBroadcast_observed {settings : ConsumerSettings} {messageCount : Nat}
    {events : List RawRingEvent}
    (published : List.Forall₂ (EventOf settings.seed payloadSize corruptAtSequence) events
      (sequenceRange 0 messageCount))
    (inRange : messageCount < 2 ^ 64) {attachedAfterMs : Nat → UInt64}
    {polls : List (List Poll)} {reports : List ChildReport}
    (inOrder : ∀ looks ∈ polls, delivered looks <+: ringEvents events)
    (ran : runConsumers settings attachedAfterMs 0 polls = some reports) :
    verifyRawRingBroadcast
        ((MessageOracle.withBroadcastConsumers polls.length).extendPublished
          (observations settings.seed payloadSize (fun _ => false)
            (sequenceRange 0 messageCount))) reports =
      some (verdict (reports.zipIdx.flatMap fun report =>
        probeViolations settings.seed payloadSize corruptAtSequence
            (sequenceRange 0 report.1.messages.length) report.2 ++
          shortfall messageCount report)) := by
  obtain ⟨lengths, all⟩ := runConsumers_reports ran
  rw [← lengths, verifyRawRingBroadcast_known]
  apply congrArg fun violations => some (verdict violations)
  apply List.flatMap_congr
  intro report member
  obtain ⟨looks, among, messages⟩ := all report.1 (List.fst_mem_of_mem_zipIdx member)
  obtain ⟨received, within, observed⟩ := runConsumer_observed published inRange
    (inOrder looks among)
  rw [← messages] at observed
  have length : report.1.messages.length = received := by
    rw [observed, observations, List.length_map, sequenceRange_length]
  rw [violations_received settings.seed payloadSize corruptAtSequence inRange within report
    observed, length]

theorem verifyRawRingBroadcast_found {settings : ConsumerSettings} {messageCount : Nat}
    {events : List RawRingEvent}
    (published : List.Forall₂ (EventOf settings.seed payloadSize corruptAtSequence) events
      (sequenceRange 0 messageCount))
    (inRange : messageCount < 2 ^ 64) {attachedAfterMs : Nat → UInt64}
    {polls : List (List Poll)} {reports : List ChildReport}
    (inOrder : ∀ looks ∈ polls, delivered looks <+: ringEvents events)
    (ran : runConsumers settings attachedAfterMs 0 polls = some reports)
    {found : ChildReport × Nat → List OracleViolation}
    (finds : ∀ report, report.1.messages.length ≤ messageCount →
      probeViolations settings.seed payloadSize corruptAtSequence
        (sequenceRange 0 report.1.messages.length) report.2 = found report) :
    verifyRawRingBroadcast
        ((MessageOracle.withBroadcastConsumers polls.length).extendPublished
          (observations settings.seed payloadSize (fun _ => false)
            (sequenceRange 0 messageCount))) reports =
      some (verdict (reports.zipIdx.flatMap fun report =>
        found report ++ shortfall messageCount report)) := by
  obtain ⟨_, all⟩ := runConsumers_reports ran
  rw [verifyRawRingBroadcast_observed published inRange inOrder ran]
  apply congrArg fun violations => some (verdict violations)
  apply List.flatMap_congr
  intro report member
  obtain ⟨looks, among, messages⟩ := all report.1 (List.fst_mem_of_mem_zipIdx member)
  obtain ⟨received, within, observed⟩ := runConsumer_observed published inRange
    (inOrder looks among)
  have short : report.1.messages.length ≤ messageCount := by
    rw [messages, observed, observations, List.length_map, sequenceRange_length]
    exact within
  rw [finds report short]

theorem probeViolations_hit (seed : UInt64) {messageCount received : Nat}
    (inRange : messageCount < 2 ^ 64) (within : received ≤ messageCount) {hit : UInt64}
    (hits : ProbeHits corruptAtSequence messageCount payloadSize hit) (consumerId : Nat) :
    probeViolations seed payloadSize corruptAtSequence (sequenceRange 0 received) consumerId =
      if hit.toNat < received then
        [.payloadMismatch consumerId hit (observation seed hit payloadSize false).payloadHash
          (observation seed hit payloadSize true).payloadHash]
      else [] := by
  have inside : received < 2 ^ 64 := Nat.lt_of_le_of_lt within inRange
  rw [probeViolations]
  by_cases reached : hit.toNat < received
  · rw [if_pos reached, filter_probed inside ⟨hits.1, reached, hits.2.2⟩]
    rfl
  · have none : ∀ sequence, ¬ ProbeHits corruptAtSequence received payloadSize sequence := by
      intro sequence ⟨at', below, _⟩
      rw [hits.1] at at'
      cases at'
      exact reached below
    rw [if_neg reached, List.filter_eq_nil_iff.mpr]
    · rfl
    · intro sequence member
      rw [unprobed inside none sequence member]
      exact Bool.false_ne_true

theorem probeViolations_missed (seed : UInt64) {messageCount received : Nat}
    (inRange : messageCount < 2 ^ 64) (within : received ≤ messageCount)
    (misses : ∀ sequence, ¬ ProbeHits corruptAtSequence messageCount payloadSize sequence)
    (consumerId : Nat) :
    probeViolations seed payloadSize corruptAtSequence (sequenceRange 0 received) consumerId =
      [] := by
  have honest : (sequenceRange 0 received).filter (probed corruptAtSequence payloadSize) = [] := by
    rw [List.filter_eq_nil_iff, ← sequenceRange_take 0 within]
    intro sequence member
    rw [unprobed inRange misses sequence (List.mem_of_mem_take member)]
    exact Bool.false_ne_true
  rw [probeViolations, honest]
  rfl

/-- Without a hit it makes no difference whether a consumer checks its events. -/
theorem runConsumer_missed {settings : ConsumerSettings} {messageCount : Nat}
    {events : List RawRingEvent}
    (published : List.Forall₂ (EventOf settings.seed payloadSize corruptAtSequence) events
      (sequenceRange 0 messageCount))
    (inRange : messageCount < 2 ^ 64)
    (misses : ∀ sequence, ¬ ProbeHits corruptAtSequence messageCount payloadSize sequence)
    (allows : settings.allowCorruptionValidation = true) {polls : List Poll}
    (inOrder : delivered polls <+: ringEvents events) :
    runConsumer { settings with allowCorruptionValidation := false } polls =
      runConsumer settings polls := by
  obtain ⟨received, within, observed⟩ := runConsumer_observed published inRange inOrder
  have never : ¬ messageCount < (runConsumer settings polls).messages.length := by
    rw [observed, observations, List.length_map, sequenceRange_length]
    omega
  have nowhere : ∀ index item, (sequenceRange 0 messageCount)[index]? = some item →
      probed corruptAtSequence payloadSize item = decide (index = messageCount) := by
    intro index item found
    have bound := (List.getElem?_eq_some_iff.mp found).1
    rw [sequenceRange_length] at bound
    rw [unprobed inRange misses item (List.mem_of_getElem? found)]
    exact (decide_eq_false (Nat.ne_of_lt bound)).symm
  have continues := consumeEvents_checking messageCount nowhere
    (seen_nothing settings.seed payloadSize corruptAtSequence (sequenceRange 0 messageCount))
    (Nat.zero_le _) published (by rw [sequenceRange_length]; exact inRange) inOrder allows
  exact continues.trans (if_neg never)

/-- A probe that hits is found at every consumer that comes to it, as one wrong payload, and
stops the consumers that check their events. Else the oracle finds no more than that a consumer
ended early; and one that finds every event in time does not. -/
theorem corruption_probe_detected (seed : UInt64) (messageCount payloadSize : Nat)
    (corruptAtSequence : Option UInt64) (inRange : messageCount < 2 ^ 64) :
    (rawEventCapacity < payloadSize → 0 < messageCount →
      runProducer seed 0 messageCount payloadSize corruptAtSequence = none) ∧
    (payloadSize ≤ rawEventCapacity → ∃ events published,
      runProducer seed 0 messageCount payloadSize corruptAtSequence = some (events, published) ∧
      ∀ settings : ConsumerSettings, settings.seed = seed →
        settings.messageCount = messageCount → settings.allowCorruptionValidation = true →
        (∀ polls, delivered polls = ringEvents events → InTime settings none polls →
          (runConsumer settings polls).ended = .reported ∧
          (runConsumer settings polls).messages.length = messageCount) ∧
        (∀ sequence, ProbeHits corruptAtSequence messageCount payloadSize sequence →
          (∀ polls, delivered polls <+: ringEvents events →
            runConsumer { settings with allowCorruptionValidation := false } polls =
              if sequence.toNat < (runConsumer settings polls).messages.length then
                ⟨(runConsumer settings polls).messages.take sequence.toNat, .panicked⟩
              else runConsumer settings polls) ∧
          ∃ expectedHash gotHash, expectedHash ≠ gotHash ∧
            ∀ attachedAfterMs polls reports,
              (∀ looks ∈ polls, delivered looks <+: ringEvents events) →
              runConsumers settings attachedAfterMs 0 polls = some reports →
              verifyRawRingBroadcast
                  ((MessageOracle.withBroadcastConsumers polls.length).extendPublished published)
                  reports =
                some (verdict (reports.zipIdx.flatMap fun report =>
                  (if sequence.toNat < report.1.messages.length then
                    [.payloadMismatch report.2 sequence expectedHash gotHash]
                  else []) ++ shortfall messageCount report))) ∧
        ((∀ sequence, ¬ ProbeHits corruptAtSequence messageCount payloadSize sequence) →
          (∀ polls, delivered polls <+: ringEvents events →
            runConsumer { settings with allowCorruptionValidation := false } polls =
              runConsumer settings polls) ∧
          ∀ attachedAfterMs polls reports,
            (∀ looks ∈ polls, delivered looks <+: ringEvents events) →
            runConsumers settings attachedAfterMs 0 polls = some reports →
            verifyRawRingBroadcast
                ((MessageOracle.withBroadcastConsumers polls.length).extendPublished published)
                reports =
              some (verdict (reports.zipIdx.flatMap (shortfall messageCount))))) := by
  have inside : 0 + messageCount < 2 ^ 64 := by omega
  have length := sequenceRange_length 0 messageCount
  constructor
  · intro large positive
    rw [runProducer, if_pos inside]
    cases sequences : sequenceRange 0 messageCount with
    | nil =>
      rw [sequences] at length
      exact absurd length (Nat.ne_of_lt positive)
    | cons sequence later => exact publishEvents_panics seed corruptAtSequence large sequence later
  · intro fits
    obtain ⟨events, made, published⟩ := publishEvents_validated seed corruptAtSequence fits
      (sequenceRange 0 messageCount)
    refine ⟨events, observations seed payloadSize (fun _ => false) (sequenceRange 0 messageCount),
      ?_, ?_⟩
    · rw [runProducer, if_pos inside]
      exact made
    · intro settings same told allows
      subst same
      have start := seen_nothing settings.seed payloadSize corruptAtSequence
        (sequenceRange 0 messageCount)
      have bounded : (sequenceRange 0 messageCount).length < 2 ^ 64 := by rwa [length]
      refine ⟨?_, ?_, ?_⟩
      · intro polls all inTime
        have served := consumeEvents_served start published bounded (by rw [told, length])
          (.inl allows) all inTime
        rw [runConsumer, served]
        refine ⟨rfl, ?_⟩
        rw [observations, List.length_map, length]
      · intro sequence hits
        constructor
        · intro polls inOrder
          exact consumeEvents_checking _ (probed_at inRange hits) start (Nat.zero_le _) published
            bounded inOrder allows
        · refine ⟨_, _, (observation_hash_ne settings.seed sequence hits.2.2).symm, ?_⟩
          intro attachedAfterMs polls reports inOrder ran
          exact verifyRawRingBroadcast_found published inRange inOrder ran fun report short =>
            probeViolations_hit settings.seed inRange short hits report.2
      · intro misses
        constructor
        · intro polls inOrder
          exact runConsumer_missed published inRange misses allows inOrder
        · intro attachedAfterMs polls reports inOrder ran
          exact verifyRawRingBroadcast_found published inRange inOrder ran fun report short =>
            probeViolations_missed settings.seed inRange short misses report.2

end Run

def patientReader : ConsumerSettings where
  seed := 1
  messageCount := 3
  allowCorruptionValidation := true
  producerDoneGrace := 25
  consumeDeadline := 20000

def handed (events : List RawRingEvent) : List Poll :=
  (ringEvents events).map fun event => .event event.1 event.2

theorem delivered_handed (events : List RawRingEvent) :
    delivered (handed events) = ringEvents events := by
  rw [delivered, handed, List.filterMap_map]
  exact List.filterMap_some

/-- The second of three events is hit. One consumer gets all three, and the other is not given
the last one in time. -/
theorem corruption_probe_detected_second :
    ∃ events published reports, runProducer 1 0 3 4 (some 1) = some (events, published) ∧
      runConsumers patientReader (fun _ => 0) 0
        [handed events, (handed events).take 2 ++ [.empty true 10 40 40]] = some reports ∧
      (runConsumer { patientReader with allowCorruptionValidation := false }
        (handed events)).ended = .panicked ∧
      ∃ expectedHash gotHash, expectedHash ≠ gotHash ∧
        verifyRawRingBroadcast
            ((MessageOracle.withBroadcastConsumers 2).extendPublished published) reports =
          some (.error [.payloadMismatch 0 1 expectedHash gotHash,
            .payloadMismatch 1 1 expectedHash gotHash, .missingMessages 1 3 2]) := by
  obtain ⟨events, published, made, observed⟩ :=
    (corruption_probe_detected 1 3 4 (some 1) (by decide)).2 (by decide)
  obtain ⟨_served, hit, _missed⟩ := observed patientReader rfl rfl rfl
  obtain ⟨stops, expectedHash, gotHash, differ, found⟩ := hit 1 ⟨rfl, by decide, by decide⟩
  have lengths : (runProducer 1 0 3 4 (some 1)).bind (fun produced =>
      (runConsumers patientReader (fun _ => 0) 0 [handed produced.1,
        (handed produced.1).take 2 ++ [.empty true 10 40 40]]).map fun reports =>
          reports.map fun report => report.messages.length) = some [3, 2] := by
    decide +kernel
  have checked : (runProducer 1 0 3 4 (some 1)).map (fun produced =>
      (runConsumer patientReader (handed produced.1)).messages.length) = some 3 := by
    decide +kernel
  rw [made, Option.bind_some, Option.map_eq_some_iff] at lengths
  rw [made, Option.map_some, Option.some.injEq] at checked
  obtain ⟨reports, ran, lengths⟩ := lengths
  refine ⟨events, published, reports, made, ran, ?_, expectedHash, gotHash, differ, ?_⟩
  · rw [stops _ (delivered_handed events ▸ List.prefix_refl _), if_pos (by rw [checked]; decide)]
  · have verified := found (fun _ => 0) _ reports (by
      intro looks member
      rcases List.mem_cons.mp member with all | early
      · rw [all, delivered_handed]
      · rw [List.mem_singleton.mp early, delivered, List.filterMap_append, List.filterMap_cons,
          List.filterMap_nil, List.append_nil, ← delivered_handed events]
        exact (List.take_prefix 2 _).filterMap _) ran
    rw [List.length_cons, List.length_singleton] at verified
    rw [verified]
    obtain ⟨first, others, rfl, three, rest⟩ := List.map_eq_cons_iff.mp lengths
    obtain ⟨second, none, rfl, two, nothing⟩ := List.map_eq_cons_iff.mp rest
    rw [List.map_eq_nil_iff.mp nothing]
    simp [shortfall, three, two, verdict]

end Dst
