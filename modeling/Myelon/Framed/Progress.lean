/-
A ring that is full has a consumer with something to consume.

This holds of the calls for single events and of those for framed messages, in any mix of the
paths of either end. Where the producer is between two frames it is between two calls for
single events.
-/

import Myelon.Framed.Publication
import Myelon.Framed.Reception
import Myelon.Ring.Booking
import Myelon.Ring.Progress
import Myelon.Ring.Taking

namespace Framed

open Interleaving Ring Framing

variable {transport : Transport}

/-- Wherever the consumer rests, a poll with nobody else running ends and returns its next
event. -/
def Polls (application : Application transport) (passes : DirectoryPasses)
    (state : application.State) (consumerId : ConsumerId) : Prop :=
  ∀ consumer action, state.AboutTo (.consumer consumerId) (.consumer consumer) action →
    action = .pause ∨ action = .nextConsumerRequest consumerId →
    let poll : ConsumerProcess application.interface Unit _ :=
      Ring.Consumer.tryConsumeNext transport
    let alone := solitary application.interface passes
    (∃ out after, alone.Ends (poll (consumer, ())) state.world out after) ∧
      ∀ out after, alone.Ends (poll (consumer, ())) state.world out after →
        ∃ value, out.1 = some (consumer.lastProcessedSequence + 1, value)

/-- A capacity check for one event, started where the producer rests, fails only if one of the
consumers is a round of the ring behind and has an event that its next poll returns. -/
def NoDeadlock (application : Application transport) (passes : DirectoryPasses) : Prop :=
  ∀ {slots : Nat → application.interface.Value} {producer : Ring.Producer}
    {consumerIds : List ConsumerId}, producer.Fresh transport → consumerIds ≠ [] →
    producer.consumerBarrier.consumerCursors = consumerIds →
    ∀ {moves probes : List (Move Party (application.machine passes).Oracle)}
      {state after : application.State},
    (application.machine passes).run (application.start slots producer consumerIds []) moves =
      some state →
    ∀ {owner : Ring.Producer} {action : Action application.interface},
    state.AboutTo .producer (.producer owner) action →
    action = .pause ∨ action = .nextProducerRequest →
    (application.machine passes).run
      (state.launch .producer (probing (Ring.Producer.probe transport) owner)) probes =
        some after →
    ∀ {self : Self}, after.AboutTo .producer self .refused →
    ∃ consumerId ∈ consumerIds,
      state.world.consumerSequence consumerId + transport.ring.size ≤
        state.world.producerSequence ∧
      Pollable application passes state consumerId ∧ Polls application passes state consumerId

variable {application : Application transport} {passes : DirectoryPasses}
variable {kept : List (ConsumerEvent application.interface) → application.App → Prop}

theorem polls_of_behind {state : application.State} {consumerIds : List ConsumerId}
    (upheld : (Policy.waiting application passes consumerIds).contract.Upheld state)
    {consumerId : ConsumerId} (small : state.world.producerSequence < 2 ^ 63 - 1)
    (behind : state.world.consumerSequence consumerId < state.world.producerSequence) :
    Polls application passes state consumerId := by
  intro consumer action about resting
  have atRest : Consumer.AtRest consumerId (.consumer consumer) state.world := by
    have guaranteed := upheld.guaranteed about trivial
    rcases resting with rfl | rfl
    · exact guaranteed
    · exact guaranteed.2.1
  obtain ⟨owner, same, here, _idle⟩ := atRest
  cases same
  have committed := (upheld.invariant.positions consumerId).1
  have last : consumer.lastProcessedSequence = state.world.consumerSequence consumerId :=
    here.lastProcessedSequence.trans committed
  have fits : Fits consumer state.world.view :=
    { low := by
        rw [last]
        exact (upheld.invariant.cursor_bounds consumerId).1
      behind := by
        rw [last]
        exact Int.le_of_lt behind
      small
      initialised := by
        rw [here.named]
        exact here.initialised }
  have settles : Settles passes (Stands consumer state.world.view)
      (Ring.Consumer.tryConsumeNext transport : ConsumerProcess application.interface Unit _)
      (Ring.Polls transport.ring consumer state.world.view) := tryConsumeNext_settles transport fits
  obtain ⟨ends, reached, _flows⟩ := settles (consumer, ()) state.world ⟨rfl, rfl⟩
  constructor
  · exact ends
  · intro out after ended
    have polled := reached out after ended
    have more : ¬ consumer.lastProcessedSequence + 1 > state.world.view.producerSequence := by
      change ¬ consumer.lastProcessedSequence + 1 > state.world.producerSequence
      omega
    simp only [Ring.Polls, if_neg more] at polled
    exact ⟨_, polled.1⟩

theorem noDeadlock_of_serves
    (servesProducer : ∀ consumerIds,
      (Policy.waiting application passes consumerIds).ServesProducer)
    (servesConsumer : ∀ consumerIds,
      (Policy.waiting application passes consumerIds).ServesConsumer kept) :
    NoDeadlock application passes := by
  intro slots producer consumerIds fresh nonempty known moves probes state after reached owner
    action about resting probed self refused
  obtain ⟨consumerId, member, round, pollable⟩ := refused_leaves_pollable
    (servesProducer consumerIds) (servesConsumer consumerIds) fresh nonempty known reached about
    resting probed refused
  have upheld : (Policy.waiting application passes consumerIds).contract.Upheld state :=
    Policy.run_upheld (servesProducer consumerIds) (servesConsumer consumerIds) slots fresh
      (fun _ impossible => impossible.elim) (known ▸ List.Subset.refl _)
      (fun consumerId member => by rwa [List.append_nil] at member) (fun _ _ _ => trivial)
      (waiting_met _ _) (waiting_accepts _ _) reached
  have settled := waiting_settled upheld about resting
  have published := settled.published
  have inRange := settled.inRange
  have size := transport.ring.size_pos
  exact ⟨consumerId, member, round, pollable,
    polls_of_behind upheld (by omega) (by omega)⟩

/-! ### The results -/

/-- The calls for single events, and those for framed messages. -/
theorem no_deadlock (transport : Transport) (passes : DirectoryPasses)
    (consumerCounters : ConsumerCounters) (Value F : Type) [FramedTransportFrame F]
    (publishPaths : List PublishPath) (receivePaths : List ReceivePath) :
    NoDeadlock (plainApplication transport Value consumerCounters) passes ∧
    NoDeadlock (framedApplication transport F publishPaths receivePaths consumerCounters)
      passes := by
  constructor
  · apply noDeadlock_of_serves
    · intro consumerIds
      exact Policy.plain_servesProducer (fun _ _ _ => trivial) (fun _ _ => trivial)
    · intro consumerIds
      exact Policy.plain_servesConsumer (fun _ _ => trivial) (fun _ => trivial)
  · apply noDeadlock_of_serves
    · intro consumerIds
      exact servesProducer_free (fun _ _ _ => trivial) (fun _ _ => trivial)
    · intro consumerIds
      exact servesConsumer_free (fun _ _ => trivial) (fun _ => trivial)

section Example

def slotWritten : List (Move Party (Oracle (plain Nat))) :=
  byProducer [.silent, .producerRequest (.publish fun _ => some 7), .silent, .silent, .silent,
    .silent, .silent]

def looksOnce : List (Move Party (Oracle (plain Nat))) :=
  byProducer [.order ["reader"], .silent]

def refused (state : (plainApplication oneSlot Nat noCounters).State) : Bool :=
  match state.program .producer with
  | .act _ .refused _ => true
  | _ => false

def refusedWhereFull (state : (plainApplication oneSlot Nat noCounters).State) : Bool :=
  match state.program .producer with
  | .act (.producer owner) .nextProducerRequest _ =>
      (((plainApplication oneSlot Nat noCounters).machine .mayFail).run
        (state.launch .producer (probing (Ring.Producer.probe oneSlot) owner)) looksOnce).any
        refused
  | _ => false

/-- The ring of one slot is full, and its consumer is the one that has an event. -/
theorem no_deadlock_one_slot : ∃ state,
    Reaches oneSlot .mayFail noCounters (fun _ => (0 : Nat)) (knowing oneSlot ["reader"])
      ["reader"] [] slotWritten state ∧
    state.world.consumerSequence "reader" + 1 ≤ state.world.producerSequence ∧
    Polls (plainApplication oneSlot Nat noCounters) .mayFail state "reader" := by
  have found : (((plainApplication oneSlot Nat noCounters).machine .mayFail).run
      ((plainApplication oneSlot Nat noCounters).start (fun _ => (0 : Nat))
        (knowing oneSlot ["reader"]) ["reader"] []) slotWritten).any refusedWhereFull = true := by
    decide +kernel
  obtain ⟨state, reached, full⟩ := (Option.any_eq_true _ _).mp found
  unfold refusedWhereFull at full
  split at full
  · rename_i owner next placed
    obtain ⟨after, probed, stopped⟩ := (Option.any_eq_true _ _).mp full
    unfold refused at stopped
    split at stopped
    · rename_i self following here
      obtain ⟨consumerId, member, round, _pollable, polls⟩ :=
        (no_deadlock oneSlot .mayFail noCounters Nat (FixedFrame 16) [] []).1 ⟨rfl, rfl⟩
          (List.cons_ne_nil "reader" []) rfl reached ⟨next, placed⟩ (.inr rfl) probed
          ⟨following, here⟩
      cases List.mem_singleton.mp member
      exact ⟨state, reached, round, polls⟩
    · cases stopped
  · cases full

end Example

end Framed
